import ClassRuntime.Text.Record

namespace ClassRuntime

/-!
# Access flags

The access and property flags of a class are sixteen bits.  One of them only
matters to how methods of the superclass are called, and is left out of the
modifiers that programs see.
-/

/-- A set of flags, one per bit. -/
structure AccessFlags where
  bits : BitVec 16
  deriving DecidableEq, Inhabited

namespace AccessFlags

/-- No flag at all. -/
def empty : AccessFlags := ⟨0⟩

def publicFlag : AccessFlags := ⟨0x0001⟩
def privateFlag : AccessFlags := ⟨0x0002⟩
def protectedFlag : AccessFlags := ⟨0x0004⟩
def staticFlag : AccessFlags := ⟨0x0008⟩
def finalFlag : AccessFlags := ⟨0x0010⟩
def superFlag : AccessFlags := ⟨0x0020⟩
def interfaceFlag : AccessFlags := ⟨0x0200⟩
def abstractFlag : AccessFlags := ⟨0x0400⟩
def syntheticFlag : AccessFlags := ⟨0x1000⟩
def annotationFlag : AccessFlags := ⟨0x2000⟩
def enumFlag : AccessFlags := ⟨0x4000⟩

/-- The three flags that say who may see a class. -/
def visibility : AccessFlags := ⟨0x0007⟩

/-- The flags of either set. -/
def union (left right : AccessFlags) : AccessFlags := ⟨left.bits ||| right.bits⟩

/-- The flags of both sets. -/
def inter (left right : AccessFlags) : AccessFlags := ⟨left.bits &&& right.bits⟩

instance : OrOp AccessFlags := ⟨union⟩

instance : AndOp AccessFlags := ⟨inter⟩

/-- Whether every flag of the second set is in the first. -/
def contains (flags required : AccessFlags) : Bool :=
  flags.bits &&& required.bits = required.bits

/-- The flags of the first set that are not in the second. -/
def without (flags removed : AccessFlags) : AccessFlags :=
  ⟨flags.bits &&& ~~~removed.bits⟩

/-- The number that programs see as the modifiers of a class. -/
def modifiers (flags : AccessFlags) : Int32 :=
  Int32.ofNat (flags.without superFlag).bits.toNat

/-- The flags that have a name, lowest bit first. -/
def named : List (AccessFlags × String) :=
  [(publicFlag, "public"), (privateFlag, "private"), (protectedFlag, "protected"),
    (staticFlag, "static"), (finalFlag, "final"), (superFlag, "super"),
    (interfaceFlag, "interface"), (abstractFlag, "abstract"), (syntheticFlag, "synthetic"),
    (annotationFlag, "annotation"), (enumFlag, "enum")]

/-- The names of the flags, as a list. -/
def text (flags : AccessFlags) : String :=
  Text.list ((named.filter fun (flag, _) => flags.contains flag).map (·.2))

end AccessFlags
end ClassRuntime
