import Conduit.Number.Leading
import Conduit.Number.Significant
import Conduit.Text.Blank

/-!
# Properties of broker clients

A client is set up by properties, each of a kind that says what it takes. A value comes as text and
is read by the kind. An empty text is no value: texts take that for being unset, and everything else
refuses it. Numbers are read by how the text begins, and an integer counts modulo 2^32 before it is
compared with its bounds. Names count in whatever case, and blanks in front of them do not count.
-/
namespace Conduit

open Number

/-- What a text has to be. -/
inductive TextRule where
  | any
  /-- Anything, with the blanks in front of it. -/
  | verbatim
  | oneOf (texts : List String)
  /-- A single name, not a list. -/
  | single
  /-- Nothing that begins like one of these. -/
  | notLike (beginnings : List String)
deriving DecidableEq, Repr

/-- A name that a property takes; one that needs what this client lacks says so. -/
structure NamedValue where
  name : String
  lacking : Option String
deriving DecidableEq, Repr

/-- What a property takes. -/
inductive PropertyKind where
  | text (rule : TextRule)
  | truth
  | integer (least greatest : Int) (names : List (String × Int))
  /-- A fraction from zero to a bound. -/
  | fraction (greatest : Nat)
  | name (names : List NamedValue)
  /-- A list of names, each of which may be struck out. -/
  | flags (names : List NamedValue)
  /-- Nothing that can be written down. -/
  | callback
  | internal
  /-- Nothing, for want of something that this client lacks. -/
  | unavailable (reason : String)
deriving DecidableEq, Repr

structure Property where
  name : String
  kind : PropertyKind
deriving DecidableEq, Repr

inductive PropertyValue where
  | text (value : Option String)
  | truth (value : Bool)
  | integer (value : Int)
  | fraction (value : Double)
  | name (value : String)
deriving DecidableEq, Repr

/-- Why a value is refused. -/
inductive ValueFault where
  /-- There is no value; the kind of the property is named. -/
  | missing (label : String)
  | invalid
  | invalidText (text : String)
  | invalidName (name : String)
  | unsupportedName (name reason : String)
  | noTruth
  | outside (value least greatest : String)
  | unavailable (reason : String)
  | callback
  | internal
deriving DecidableEq, Repr

def ValueFault.message (property : String) : ValueFault → String
  | missing label => s!"{label} \"{property}\" cannot be set to empty value"
  | invalid => s!"Invalid value for configuration property \"{property}\""
  | invalidText text => s!"Invalid value for configuration property \"{property}\": {text}"
  | invalidName name => s!"Invalid value \"{name}\" for configuration property \"{property}\""
  | unsupportedName name reason =>
    s!"Unsupported value \"{name}\" for configuration property \"{property}\": {reason}"
  | noTruth => s!"Expected bool value for \"{property}\": true or false"
  | outside value least greatest =>
    s!"Configuration property \"{property}\" value {value} is outside allowed range {least}..{greatest}\n"
  | unavailable reason =>
    s!"Configuration property \"{property}\" not supported in this build: {reason}"
  | callback => s!"Property \"{property}\" must be set through dedicated .._set_..() function"
  | internal => s!"Internal property \"{property}\" not settable"

namespace TextRule

/-- Whether a text that is set will do. -/
def admits : TextRule → List Char → Bool
  | any, _ => true
  | verbatim, _ => true
  | oneOf texts, s => texts.contains (String.ofList s)
  | single, s => !s.contains ',' && !s.contains ' '
  | notLike beginnings, s => !beginnings.any fun beginning => beginning.toList.isPrefixOf s

/-- Whether a text can be left unset. -/
def isOptional : TextRule → Bool
  | any => true
  | verbatim => true
  | _ => false

def read (rule : TextRule) (s : List Char) : Except ValueFault PropertyValue :=
  if s.isEmpty then
    if rule.isOptional then .ok (.text none) else .error (.invalidText "(null)")
  else
    let kept := if rule = verbatim then s else skipBlanks s
    if rule.admits kept then .ok (.text (some (String.ofList kept)))
    else .error (.invalidText (String.ofList kept))

end TextRule

namespace PropertyKind

def sameName (a b : String) : Bool := Text.lowerAscii a = Text.lowerAscii b

def readTruth (s : String) : Except ValueFault PropertyValue :=
  if s = "" then .error (.missing "Bool configuration property")
  else if ["true", "t", "1"].any (sameName s) then .ok (.truth true)
  else if ["false", "f", "0"].any (sameName s) then .ok (.truth false)
  else .error .noTruth

/-- The integer of 32 bits that is left of one kept within 64 bits. -/
def wrapped (n : Int) : Int :=
  Int.bmod (max (-Nat.pow 2 63) (min n (Nat.pow 2 63 - 1))) (Nat.pow 2 32)

def readInteger (least greatest : Int) (names : List (String × Int)) (s : String) :
    Except ValueFault PropertyValue := do
  if s = "" then
    throw (.missing "Integer configuration property")
  let value ← match leadingInteger? s.toList, names.find? fun entry => sameName entry.1 s with
    | some n, _ => pure (wrapped n)
    | none, some entry => pure entry.2
    | none, none => throw .invalid
  if value < least ∨ greatest < value then
    throw (.outside (integerText value) (integerText least) (integerText greatest))
  return .integer value

def readFraction (greatest : Nat) (s : String) : Except ValueFault PropertyValue := do
  if s = "" then
    throw (.missing "Float configuration property")
  match leadingDouble? s.toList with
  | none => throw .invalid
  | some x =>
    if x.isOutside greatest then
      throw (.outside x.roundedText "0"
        (Double.ofPattern (Format.double.nearest greatest 1)).roundedText)
    return .fraction x

/-- The name that a text means. -/
def pick (names : List NamedValue) (s : String) : Except ValueFault String :=
  match names.find? fun value => sameName value.name s with
  | none => .error (.invalidName s)
  | some ⟨known, none⟩ => .ok known
  | some ⟨_, some reason⟩ => .error (.unsupportedName s reason)

def missingName : ValueFault := .missing "Configuration property"

/-- A name; a text of blanks sets nothing. -/
def readName (names : List NamedValue) (s : String) : Except ValueFault (Option PropertyValue) := do
  if s = "" then
    throw missingName
  let asked := String.ofList (skipBlanks s.toList)
  if asked = "" then return none
  return some (.name (← pick names asked))

/-- A flag without the sign in front that adds it or strikes it out. -/
def unsigned (s : List Char) : String := String.ofList (splitSign (skipBlanks s)).2

def readFlags (names : List NamedValue) (s : String) :
    Except ValueFault (Option PropertyValue) := do
  if s = "" then
    throw missingName
  let flags := ((Text.pieces ',' s.toList).map unsigned).filter (· ≠ "")
  let read ← flags.mapM (pick names)
  return if read.isEmpty then none else some (.name (",".intercalate read))

/-- The value of a text, unless it sets nothing. -/
def read (kind : PropertyKind) (s : String) : Except ValueFault (Option PropertyValue) :=
  match kind with
  | text rule => (rule.read s.toList).map some
  | truth => (readTruth s).map some
  | integer least greatest names => (readInteger least greatest names s).map some
  | fraction greatest => (readFraction greatest s).map some
  | name names => readName names s
  | flags names => readFlags names s
  | callback => .error .callback
  | internal => .error .internal
  | unavailable reason => .error (.unavailable reason)

end PropertyKind

end Conduit
