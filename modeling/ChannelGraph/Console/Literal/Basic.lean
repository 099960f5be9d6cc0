import ChannelGraph.Console.Literal.Token

/-!
# Literals

A literal denotes a value by itself: a number with at most one sign, a sum of a real and an
imaginary number, texts next to each other, one of a few constants, or a tuple, a dictionary or a
set of literals. An integer in a sum may not be too large to be a floating-point number. Only what
can be hashed may be in a set or be a key of a dictionary; sets and dictionaries cannot, nor can
tuples with such a member. The empty set is written as a call.

`Literal.isWellFormed` decides whether a text is a literal.
-/

namespace ChannelGraph.Console.Literal

/-- What part of a literal is. -/
inductive Kind where
  /-- A real number without sign. -/
  | real
  /-- An imaginary number without sign. -/
  | imaginary
  /-- A real number with a sign. -/
  | signed
  /-- An integer without sign that is too large to be added to an imaginary number. -/
  | huge
  /-- Another value that can be hashed. -/
  | hashable
  /-- A value that cannot be hashed. -/
  | unhashable
  /-- The name of the function that makes sets, which is no value. -/
  | setName
deriving DecidableEq

namespace Kind

/-- Whether part of a literal is a value. -/
def isValue : Kind → Bool
  | setName => false
  | _ => true

/-- Whether part of a literal is a value that can be hashed. -/
def isHashable : Kind → Bool
  | unhashable | setName => false
  | _ => true

/-- A tuple with members of the given kinds. -/
def tuple? (members : List Kind) : Option Kind :=
  if !members.all isValue then none
  else some (if members.all isHashable then hashable else unhashable)

end Kind

/-- What stands between brackets: members, the keys in front of their colons, and whether a comma
follows the last one. -/
structure Members where
  /-- The kinds of the members. -/
  kinds : List Kind := []
  /-- The kinds of the keys. -/
  keys : List Kind := []
  /-- A comma follows the last member. -/
  comma : Bool := false
deriving DecidableEq

namespace Members

/-- What members between round brackets, or between none, denote: a tuple, or a single member if
no comma follows it. -/
def grouped? (m : Members) : Option Kind :=
  if !m.keys.isEmpty then none
  else
    match m.kinds, m.comma with
    | [s], false => some s
    | kinds, _ => Kind.tuple? kinds

/-- What members between braces denote: a dictionary if every member has a key or there is none,
else a set if no member has one. -/
def braced? (m : Members) : Option Kind :=
  if !m.kinds.all Kind.isValue || !m.keys.all Kind.isHashable then none
  else if m.keys.length = m.kinds.length then some .unhashable
  else if m.keys.isEmpty && m.kinds.all Kind.isHashable then some .unhashable
  else none

end Members

/-- The constant words. -/
def constants : List String :=
  ["True", "False", "None"]

/-- A part behind which a call without arguments may follow, which only the name of the function
that makes sets can be called in, and what follows that. -/
def called (k : Kind) (ts : List Token) : Kind × List Token :=
  match k, ts with
  | .setName, .mark '(' :: .mark ')' :: ts => (.unhashable, ts)
  | k, ts => (k, ts)

mutual

/-- The part at the front that no sign belongs to, and what follows it. -/
def primary? : Nat → List Token → Option (Kind × List Token)
  | 0, _ => none
  | fuel + 1, ts =>
    match ts with
    | .number .real :: ts => some (.real, ts)
    | .number .huge :: ts => some (.huge, ts)
    | .number .imaginary :: ts => some (.imaginary, ts)
    | .text bytes :: ts => some (.hashable, ts.dropWhile (· = .text bytes))
    | .ellipsis :: ts => some (.hashable, ts)
    | .word cs :: ts =>
      if String.ofList cs ∈ constants then some (.hashable, ts)
      else if cs.map plainLetter = "set".toList then some (called .setName ts)
      else none
    | .mark c :: ts =>
      if c = '(' then
        match members? fuel (.mark ')') ts with
        | some (m, ts) => m.grouped?.map fun s ↦ called s ts
        | none => none
      else if c = '\x7b' then
        match members? fuel (.mark '\x7d') ts with
        | some (m, ts) => m.braced?.map fun s ↦ (s, ts)
        | none => none
      else none
    | _ => none

/-- The member at the front, with its signs, and what follows it. -/
def member? : Nat → List Token → Option (Kind × List Token)
  | 0, _ => none
  | fuel + 1, ts =>
    let first : Option (Kind × List Token) :=
      match ts with
      | .sign :: ts =>
        match primary? fuel ts with
        | some (.real, ts) => some (.signed, ts)
        | some (.huge, ts) | some (.imaginary, ts) => some (.hashable, ts)
        | _ => none
      | ts => primary? fuel ts
    match first with
    | some (s, .sign :: ts) =>
      if s = .real ∨ s = .signed then
        match primary? fuel ts with
        | some (.imaginary, ts) => some (.hashable, ts)
        | _ => none
      else none
    | first => first

/-- The members up to a closing token, and what follows that. -/
def members? : Nat → Token → List Token → Option (Members × List Token)
  | 0, _, _ => none
  | fuel + 1, closing, ts =>
    if ts.head? = some closing then some ({}, ts.drop 1)
    else
      match member? fuel ts with
      | some (key, .mark ':' :: ts) =>
        match member? fuel ts with
        | some (s, ts) => goOn? fuel closing ({ kinds := [s], keys := [key] }) ts
        | none => none
      | some (s, ts) => goOn? fuel closing ({ kinds := [s] }) ts
      | none => none

/-- Members of which the first one is given, up to a closing token, and what follows that. -/
def goOn? : Nat → Token → Members → List Token → Option (Members × List Token)
  | 0, _, _, _ => none
  | fuel + 1, closing, m, ts =>
    match ts with
    | .mark ',' :: ts =>
      (members? fuel closing ts).map fun r ↦
        ({ kinds := m.kinds ++ r.1.kinds, keys := m.keys ++ r.1.keys,
           comma := r.1.kinds.isEmpty || r.1.comma }, r.2)
    | t :: ts => if t = closing then some (m, ts) else none
    | [] => none

end

/-- Whether a text is a literal. -/
def isWellFormed (cs : List Char) : Bool :=
  match tokens? cs with
  | none => false
  | some ts =>
    let isEnd (t : Token) : Bool := t = .lineEnd
    let inner := (((ts.dropWhile isEnd).reverse.dropWhile isEnd).reverse)
    match members? (4 * inner.length + 4) .lineEnd (inner ++ [.lineEnd]) with
    | some (m, []) => !m.kinds.isEmpty && (m.grouped?.map Kind.isValue).getD false
    | _ => false

end ChannelGraph.Console.Literal
