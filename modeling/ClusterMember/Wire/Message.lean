import ClusterMember.Reply
import ClusterMember.Wire.Record

/-! # The messages of the worker service

Four messages cross the wire: two requests and their two responses. A field that holds its default
(the empty text, or false) is not written; of a field that is written more than once the last
writing counts; a field with an unknown number is ignored.

* `Message`: how a type is written and read.
* `RegisterRequest`, `HeartbeatRequest`, `RegisterResponse`, `HeartbeatResponse`: the messages.
* `RegisterResponse.reply`, `HeartbeatResponse.reply`: both responses carry a reply.
-/

namespace ClusterMember.Wire
set_option autoImplicit false

/-! ## Fields -/

def textField (number : Nat) (text : String) : List UInt8 :=
  if text = "" then []
  else
    Key.encode ⟨number, .bytes⟩ ++ Varint.encode text.utf8ByteSize ++ text.toByteArray.data.toList

def flagField (number : Nat) (flag : Bool) : List UInt8 :=
  if flag then Key.encode ⟨number, .varint⟩ ++ [1] else []

namespace Record

/-- The text of a record; its bytes must be UTF-8. -/
def text? (record : Record) : Option String :=
  match record.payload with
  | .bytes bytes => String.fromUTF8? ⟨bytes.toArray⟩
  | .varint _ | .skipped => none

/-- The truth value of a record: any number but zero is true. -/
def flag? (record : Record) : Option Bool :=
  match record.payload with
  | .varint n => some (n ≠ 0)
  | .bytes _ | .skipped => none

end Record

/-! ## Messages -/

/-- A type that crosses the wire. -/
class Message (α : Type) where
  /-- The message none of whose fields is written. -/
  blank : α
  /-- The message after one more record; `none` for a record of a known field of the wrong kind. -/
  merge : α → Record → Option α
  /-- The message as it is written, with its fields in the order of their numbers. -/
  encode : α → List UInt8

export Message (encode)

def decode? (α : Type) [Message α] (bytes : List UInt8) : Option α :=
  match records? bytes with
  | none => none
  | some records => records.foldlM Message.merge Message.blank

/-- A worker asks to be registered. -/
structure RegisterRequest where
  workerId : String := ""
  address : String := ""
  cloudTag : String := ""
deriving DecidableEq

instance : Message RegisterRequest where
  blank := {}
  merge m record :=
    match record.number with
    | 1 => record.text?.map fun text => { m with workerId := text }
    | 2 => record.text?.map fun text => { m with address := text }
    | 3 => record.text?.map fun text => { m with cloudTag := text }
    | _ => some m
  encode m := textField 1 m.workerId ++ textField 2 m.address ++ textField 3 m.cloudTag

/-- The answer to a registration. -/
structure RegisterResponse where
  ok : Bool := false
  leaderAddr : String := ""
  error : String := ""
deriving DecidableEq

instance : Message RegisterResponse where
  blank := {}
  merge m record :=
    match record.number with
    | 1 => record.flag?.map fun flag => { m with ok := flag }
    | 2 => record.text?.map fun text => { m with leaderAddr := text }
    | 3 => record.text?.map fun text => { m with error := text }
    | _ => some m
  encode m := flagField 1 m.ok ++ textField 2 m.leaderAddr ++ textField 3 m.error

/-- A worker says that it is alive. -/
structure HeartbeatRequest where
  workerId : String := ""
deriving DecidableEq

instance : Message HeartbeatRequest where
  blank := {}
  merge m record :=
    match record.number with
    | 1 => record.text?.map fun text => { m with workerId := text }
    | _ => some m
  encode m := textField 1 m.workerId

/-- The answer to a heartbeat. -/
structure HeartbeatResponse where
  ok : Bool := false
  leaderAddr : String := ""
  error : String := ""
deriving DecidableEq

instance : Message HeartbeatResponse where
  blank := {}
  merge m record :=
    match record.number with
    | 1 => record.flag?.map fun flag => { m with ok := flag }
    | 2 => record.text?.map fun text => { m with leaderAddr := text }
    | 3 => record.text?.map fun text => { m with error := text }
    | _ => some m
  encode m := flagField 1 m.ok ++ textField 2 m.leaderAddr ++ textField 3 m.error

/-! ## Replies -/

def RegisterResponse.reply (m : RegisterResponse) : Reply := ⟨m.ok, m.leaderAddr, m.error⟩

def HeartbeatResponse.reply (m : HeartbeatResponse) : Reply := ⟨m.ok, m.leaderAddr, m.error⟩

end ClusterMember.Wire
