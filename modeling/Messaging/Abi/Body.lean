import Messaging.Abi.Message

/-!
# Calls on the bodies of messages

Every call is for handles of one kind.  A read from a bytes or stream body that succeeds is over
before its result is written: if the result cannot be written the call fails although the body
has moved on.
-/

namespace Messaging.Abi

open Effect

inductive TextCall where
  | get (m : Option MessageId) (b : Buffer)
  | set (m : Option MessageId) (s : CString)

def TextCall.check (w : Interface) : TextCall → Except Failure Effect
  | get m b => do
    let (_, message) ← w.typed .text m
    let s ← runtime message.getText
    return copy b (.ok s)
  | set m s => do
    let (m, message) ← w.typed .text m
    let s ← s.text
    let message ← runtime (message.setText s)
    return store m message (answer [])

inductive MapCall where
  | contains (m : Option MessageId) (key : CString) (out : Out)
  | getNames (m : Option MessageId) (out : Out × Out)
  | get (type : Scalar) (m : Option MessageId) (key : CString) (out : Out)
  | getText (m : Option MessageId) (key : CString) (b : Buffer)
  | set (m : Option MessageId) (key : CString) (v : Value)
  | setText (m : Option MessageId) (key value : CString)

namespace MapCall

def entries (m : Option MessageId) (w : Interface) : Except Failure ValueTable := do
  let (_, message) ← w.typed .map m
  runtime message.mapBody

def put (m : Option MessageId) (key : CString) (v : Value) (w : Interface) :
    Except Failure Effect := do
  let (m, message) ← w.typed .map m
  let key ← key.key
  let table ← runtime message.mapBodyToWrite
  return store m { message with body := .map (table.insert key v) } (answer [])

def check (w : Interface) : MapCall → Except Failure Effect
  | contains m key out => do
    let table ← entries m w
    let key ← key.key
    return write out (ofTruth (table.contains key))
  | getNames m out => do
    let table ← entries m w
    writeNames out table
  | get type m key out => do
    let table ← entries m w
    let key ← key.key
    let v ← runtime (table.getScalar type key)
    return write out (ofValue v)
  | getText m key b => do
    let table ← entries m w
    let key ← key.key
    return copy b (table.getString key)
  | set m key v => put m key v w
  | setText m key value => do
    let value ← value.text
    put m key (.string value) w

end MapCall

/-! ## Bytes and streams -/

def writeBlock (count : Out) : Option (List UInt8) → Effect
  | none => fail .incompleteRead []
  | some block => answer (.bytes block :: if count = .given then [.size block.length] else [])

inductive BytesCall where
  | getLength (m : Option MessageId) (out : Out)
  | reset (m : Option MessageId)
  | read (type : Scalar) (m : Option MessageId) (out : Out)
  | write (m : Option MessageId) (v : Value)
  | readBlock (m : Option MessageId) (b : Buffer) (count : Out)
  | writeBlock (m : Option MessageId) (bytes : Bytes) (offset length : Nat)
  | readText (m : Option MessageId) (b : Buffer)
  | writeText (m : Option MessageId) (s : CString)
  | readUtf (m : Option MessageId) (b : Buffer)
  | writeUtf (m : Option MessageId) (s : CString)

namespace BytesCall

def body (m : Option MessageId) (w : Interface) :
    Except Failure (BytesBody × (BytesBody → Effect → Effect)) := do
  let (m, message) ← w.typed .bytes m
  let body ← runtime message.bytesBody
  return (body, fun after => store m { message with body := .bytes after })

def check (w : Interface) : BytesCall → Except Failure Effect
  | getLength m out => do
    let (body, _) ← body m w
    let n ← runtime body.length
    return Effect.write out (.size n)
  | reset m => do
    let (body, keep) ← body m w
    return keep body.reset (answer [])
  | read type m out => do
    let (body, keep) ← body m w
    let (v, after) ← runtime (body.readScalar type)
    return keep after (Effect.write out (ofValue v))
  | write m v => do
    let (body, keep) ← body m w
    let after ← runtime (body.write v)
    return keep after (answer [])
  | readBlock m b count => do
    let (body, keep) ← body m w
    b.check
    let (block, after) ← runtime (body.readBytes b.size)
    return keep after (Abi.writeBlock count block)
  | writeBlock m bytes offset length => do
    let (body, keep) ← body m w
    if length = 0 then return answer []
    let bytes ← given bytes
    let after ← runtime (body.put ((bytes.drop offset).take length))
    return keep after (answer [])
  | readText m b => do
    let (body, keep) ← body m w
    match body.readString with
    | .ok (s, after) => return keep after (copy b (.ok s))
    | .error e => return copy b (.error e)
  | writeText m s => do
    let (body, keep) ← body m w
    let s ← s.text
    let after ← runtime (body.writeString s)
    return keep after (answer [])
  | readUtf m b => do
    let (body, keep) ← body m w
    match body.readUtf with
    | .ok (s, after) => return keep after (copy b (.ok s))
    | .error e => return copy b (.error e)
  | writeUtf m s => do
    let (body, keep) ← body m w
    let s ← s.text
    let after ← runtime (body.writeUtf s)
    return keep after (answer [])

end BytesCall

inductive StreamCall where
  | reset (m : Option MessageId)
  | read (type : Scalar) (m : Option MessageId) (out : Out)
  | write (m : Option MessageId) (v : Value)
  | readBlock (m : Option MessageId) (b : Buffer) (count : Out)
  | writeBlock (m : Option MessageId) (bytes : Bytes) (offset length : Nat)
  | readText (m : Option MessageId) (b : Buffer)
  | writeText (m : Option MessageId) (s : CString)

namespace StreamCall

def body (m : Option MessageId) (w : Interface) :
    Except Failure (StreamBody × (StreamBody → Effect → Effect)) := do
  let (m, message) ← w.typed .stream m
  let body ← runtime message.streamBody
  return (body, fun after => store m { message with body := .stream after })

def check (w : Interface) : StreamCall → Except Failure Effect
  | reset m => do
    let (body, keep) ← body m w
    return keep body.reset (answer [])
  | read type m out => do
    let (body, keep) ← body m w
    let (v, after) ← runtime (body.readScalar type)
    return keep after (Effect.write out (ofValue v))
  | write m v => do
    let (body, keep) ← body m w
    let after ← runtime (body.write v)
    return keep after (answer [])
  | readBlock m b count => do
    let (body, keep) ← body m w
    b.check
    let (block, after) ← runtime (body.readBytes b.size)
    return keep after (Abi.writeBlock count block)
  | writeBlock m bytes offset length => do
    let (body, keep) ← body m w
    let bytes ← if length = 0 then pure [] else given bytes
    let after ← runtime (body.write (.bytes ((bytes.drop offset).take length)))
    return keep after (answer [])
  | readText m b => do
    let (body, keep) ← body m w
    match body.readString with
    | .ok (s, after) => return keep after (copy b (.ok s))
    | .error e => return copy b (.error e)
  | writeText m s => do
    let (body, keep) ← body m w
    let s ← s.text
    let after ← runtime (body.write (.string s))
    return keep after (answer [])

end StreamCall

end Messaging.Abi
