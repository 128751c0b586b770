import Mathlib.Data.List.Basic

/-!
# JSON texts

`Json.parse` reads a text character by character, with the arrays and objects that are still open
on a stack.  Strings are sequences of UTF-16 code units, as an escape may give half of a surrogate
pair.  Numbers are kept as they are written.
-/

namespace OpnetNode

/-- A JSON value. -/
inductive Json
  | null
  | bool (b : Bool)
  | number (literal : List Char)
  | string (units : List ℕ)
  | array (items : List Json)
  | object (members : List (List ℕ × Json))

namespace Json

/-- An array or object that is still open, with what has been read of it. -/
inductive Frame
  | array (items : List Json)
  | object (members : List (List ℕ × Json))
  | member (members : List (List ℕ × Json)) (key : List ℕ)

/-- How much of a number has been read. -/
inductive NumberPhase
  | minus | zero | int | point | fraction | exponent | exponentSign | exponentDigits
  deriving DecidableEq

/-- What is expected next. -/
inductive Mode
  | value
  | firstItem
  | firstKey
  | key
  | colon
  | afterValue
  | done (v : Json)
  | literal (rest : List Char) (v : Json)
  | number (read : List Char) (phase : NumberPhase)
  | string (isKey : Bool) (units : List ℕ)
  | escape (isKey : Bool) (units : List ℕ)
  | unicode (isKey : Bool) (units : List ℕ) (digits : ℕ) (unit : ℕ)

structure Reader where
  stack : List Frame
  mode : Mode

def isWhitespace (c : Char) : Bool := c = ' ' || c = '\t' || c = '\n' || c = '\r'

def codeUnits (c : Char) : List ℕ :=
  if c.toNat < 0x10000 then [c.toNat]
  else [0xD800 + (c.toNat - 0x10000) / 0x400, 0xDC00 + (c.toNat - 0x10000) % 0x400]

/-- Set a member.  A key that is already there keeps its place and takes the later value. -/
def setMember (key : List ℕ) (v : Json) : List (List ℕ × Json) → List (List ℕ × Json)
  | [] => [(key, v)]
  | m :: rest => if m.1 = key then (key, v) :: rest else m :: setMember key v rest

/-- A value is complete. -/
def complete (v : Json) : List Frame → Option Reader
  | [] => some ⟨[], .done v⟩
  | .array items :: stack => some ⟨.array (items ++ [v]) :: stack, .afterValue⟩
  | .member members key :: stack => some ⟨.object (setMember key v members) :: stack, .afterValue⟩
  | .object _ :: _ => none

def completeString (isKey : Bool) (units : List ℕ) : List Frame → Option Reader
  | .object members :: stack =>
    if isKey then some ⟨.member members units :: stack, .colon⟩ else none
  | stack => if isKey then none else complete (.string units) stack

def beginValue (stack : List Frame) (c : Char) : Option Reader :=
  if c = '\x7b' then some ⟨.object [] :: stack, .firstKey⟩
  else if c = '[' then some ⟨.array [] :: stack, .firstItem⟩
  else if c = '"' then some ⟨stack, .string false []⟩
  else if c = 'n' then some ⟨stack, .literal ['u', 'l', 'l'] .null⟩
  else if c = 't' then some ⟨stack, .literal ['r', 'u', 'e'] (.bool true)⟩
  else if c = 'f' then some ⟨stack, .literal ['a', 'l', 's', 'e'] (.bool false)⟩
  else if c = '-' then some ⟨stack, .number [c] .minus⟩
  else if c = '0' then some ⟨stack, .number [c] .zero⟩
  else if c.isDigit then some ⟨stack, .number [c] .int⟩
  else none

def beginKey (stack : List Frame) (c : Char) : Option Reader :=
  if c = '"' then some ⟨stack, .string true []⟩ else none

/-- What may follow a value: a comma, or the end of what is open. -/
def follow (stack : List Frame) (c : Char) : Option Reader :=
  match stack with
  | .array items :: outer =>
    if c = ',' then some ⟨stack, .value⟩
    else if c = ']' then complete (.array items) outer
    else none
  | .object members :: outer =>
    if c = ',' then some ⟨stack, .key⟩
    else if c = '\x7d' then complete (.object members) outer
    else none
  | _ => none

def numberStep (phase : NumberPhase) (c : Char) : Option NumberPhase :=
  match phase with
  | .minus => if c = '0' then some .zero else if c.isDigit then some .int else none
  | .zero => if c = '.' then some .point else if c = 'e' ∨ c = 'E' then some .exponent else none
  | .int =>
    if c.isDigit then some .int
    else if c = '.' then some .point
    else if c = 'e' ∨ c = 'E' then some .exponent
    else none
  | .point => if c.isDigit then some .fraction else none
  | .fraction =>
    if c.isDigit then some .fraction else if c = 'e' ∨ c = 'E' then some .exponent else none
  | .exponent =>
    if c = '+' ∨ c = '-' then some .exponentSign
    else if c.isDigit then some .exponentDigits
    else none
  | .exponentSign => if c.isDigit then some .exponentDigits else none
  | .exponentDigits => if c.isDigit then some .exponentDigits else none

/-- Whether a number may end here. -/
def NumberPhase.isComplete (phase : NumberPhase) : Bool :=
  phase = .zero || phase = .int || phase = .fraction || phase = .exponentDigits

/-- The code unit of a one-letter escape. -/
def escaped (c : Char) : Option ℕ :=
  if c = '"' ∨ c = '\\' ∨ c = '/' then some c.toNat
  else if c = 'b' then some 0x08
  else if c = 'f' then some 0x0C
  else if c = 'n' then some 0x0A
  else if c = 'r' then some 0x0D
  else if c = 't' then some 0x09
  else none

def hexValue (c : Char) : Option ℕ :=
  if c.isDigit then some (c.toNat - 0x30)
  else if 'a' ≤ c ∧ c ≤ 'f' then some (c.toNat - 0x57)
  else if 'A' ≤ c ∧ c ≤ 'F' then some (c.toNat - 0x37)
  else none

/-- After a value: spaces, or what may follow it. -/
def stepAfterValue (r : Reader) (c : Char) : Option Reader :=
  if isWhitespace c then some r else follow r.stack c

def step (r : Reader) (c : Char) : Option Reader :=
  match r.mode with
  | .value => if isWhitespace c then some r else beginValue r.stack c
  | .firstItem =>
    if isWhitespace c then some r
    else if c = ']' then follow r.stack c
    else beginValue r.stack c
  | .firstKey =>
    if isWhitespace c then some r
    else if c = '\x7d' then follow r.stack c
    else beginKey r.stack c
  | .key => if isWhitespace c then some r else beginKey r.stack c
  | .colon =>
    if isWhitespace c then some r else if c = ':' then some { r with mode := .value } else none
  | .afterValue => stepAfterValue r c
  | .done _ => if isWhitespace c then some r else none
  | .literal [] _ => none
  | .literal [last] v => if c = last then complete v r.stack else none
  | .literal (next :: rest) v => if c = next then some { r with mode := .literal rest v } else none
  | .number read phase =>
    match numberStep phase c with
    | some phase' => some { r with mode := .number (read ++ [c]) phase' }
    | none =>
      -- A number ends with the character after it, which is read again.
      if phase.isComplete then (complete (.number read) r.stack).bind (stepAfterValue · c) else none
  | .string isKey units =>
    if c = '"' then completeString isKey units r.stack
    else if c = '\\' then some { r with mode := .escape isKey units }
    else if c.toNat < 0x20 then none
    else some { r with mode := .string isKey (units ++ codeUnits c) }
  | .escape isKey units =>
    if c = 'u' then some { r with mode := .unicode isKey units 0 0 }
    else (escaped c).map fun unit => { r with mode := .string isKey (units ++ [unit]) }
  | .unicode isKey units digits unit =>
    (hexValue c).map fun digit =>
      if digits = 3 then { r with mode := .string isKey (units ++ [unit * 16 + digit]) }
      else { r with mode := .unicode isKey units (digits + 1) (unit * 16 + digit) }

/-- The value at the end of the text. -/
def finish (r : Reader) : Option Json :=
  match r.mode with
  | .done v => some v
  | .number read phase => if phase.isComplete ∧ r.stack = [] then some (.number read) else none
  | _ => none

/-- `JSON.parse`: the value of a text, if it is a JSON text. -/
def parse (text : List Char) : Option Json := (text.foldlM step ⟨[], .value⟩).bind finish

def isNull : Json → Bool
  | null => true
  | _ => false

def units (text : String) : List ℕ := text.toList.flatMap codeUnits

/-- The member of a name that no prototype has; `none` is `undefined`. -/
def member (name : String) : Json → Option Json
  | object members => members.lookup (units name)
  | _ => none

end Json

end OpnetNode
