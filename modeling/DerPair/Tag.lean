import DerPair.Octets

namespace DerPair

-- One identifier octet. High tag numbers take more octets and have no value here.
structure Tag where
  octet : UInt8
  deriving DecidableEq, Repr

namespace Tag

def boolean : Tag := ⟨0x01⟩
def integer : Tag := ⟨0x02⟩
def bitString : Tag := ⟨0x03⟩
def octetString : Tag := ⟨0x04⟩
def null : Tag := ⟨0x05⟩
def objectIdentifier : Tag := ⟨0x06⟩
def sequence : Tag := ⟨0x30⟩
def set : Tag := ⟨0x31⟩

def universalNames : List (Tag × String) :=
  [(boolean, "BOOLEAN"), (integer, "INTEGER"), (bitString, "BIT STRING"),
   (octetString, "OCTET STRING"), (null, "NULL"), (objectIdentifier, "OBJECT IDENTIFIER"),
   (sequence, "SEQUENCE"), (set, "SET")]

-- Class bits 10; the constructed bit may be either.
def contextSpecific (tag : Tag) : Bool := tag.octet &&& 0xC0 == 0x80

-- Context tags are named by number alone, so a primitive and a constructed one
-- share a name. Names do not identify tags.
def name (tag : Tag) : String :=
  match universalNames.lookup tag with
  | some name => name
  | none =>
    if tag.contextSpecific then "ContextTag" ++ toString (tag.octet &&& 0x1F).toNat
    else "UNKNOWN(" ++ toString tag.octet.toNat ++ ")"

def label (tag : Tag) : String :=
  "Tag(" ++ tag.name ++ "[" ++ toString tag.octet.toNat ++ "])"

def insert (tag : Tag) : List Tag → List Tag
  | [] => [tag]
  | head :: rest =>
    if tag.octet < head.octet then tag :: head :: rest
    else if tag = head then head :: rest
    else head :: insert tag rest

-- By octet, each tag once.
def ordered (tags : List Tag) : List Tag := tags.foldr insert []

end Tag
end DerPair
