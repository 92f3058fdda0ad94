import Messaging.Text.Utf8
import Messaging.Uri.Error
import Messaging.Uri.Form
import Messaging.Uri.Ipv4
import Messaging.Uri.Label

/-!
# Domain names

The hosts of special schemes.  Escapes are undone, every character is folded, and what is left is
a name of labels between dots or the address of a machine.
-/

namespace Messaging.Uri.Domain

open Text

def unescape (host : List Char) : List Char :=
  (Utf8.decodeLossy (Form.unescape (Utf8.encode (String.ofList host)))).toList

def labels? (host : List Char) : Option (List (List Char)) :=
  ((unescape host).mapM fold?).map fun folded =>
    (splitDots folded.flatten).map Composition.compose

/-- Whether the texts of labels make a name; one text with a direction asks it of all. -/
def isName (texts : List (List Char)) : Bool :=
  texts.all Label.isWellFormed &&
    (!texts.any Label.needsDirection || texts.all Label.isDirected)

/-- The name or the address that a host stands for; letters outside ASCII stay as they are. -/
def read (host : List Char) : Except Error (List Char) :=
  match labels? host with
  | none => .error .badDomain
  | some labels =>
    if ((labels.mapM Label.read?).map isName).getD false then
      let name := ['.'].intercalate labels
      if name.isEmpty then .error .emptyHost
      else if Ipv4.isMeant name then
        match Ipv4.read? name with
        | some address => .ok (Ipv4.write address)
        | none => .error .badIpv4
      else .ok name
    else .error .badDomain

end Messaging.Uri.Domain
