import MarkupBridge.Text.Basic

namespace MarkupBridge

/-- A number that is no natural number is only ever refused. -/
inductive Value where
  | null
  | bool (b : Bool)
  | nat (n : Nat)
  | number
  | text (t : Text)
  | list (vs : List Value)
  | record (fields : List (Text × Value))

namespace Value

def bool? : Value → Option Bool
  | bool b => some b
  | _ => none

/-- The number of natural numbers that fit in 64 bits. -/
def natBound : Nat := 0x10000000000000000

def nat? : Value → Option Nat
  | nat n => if n < natBound then some n else none
  | _ => none

def text? : Value → Option Text
  | text t => some t
  | _ => none

def optionalText? : Value → Option (Option Text)
  | null => some none
  | text t => some (some t)
  | _ => none

def record? : Value → Option (List (Text × Value))
  | record fields => some fields
  | _ => none

/-- A field under any of its names, read by `read`; `default` if it is absent. Two of its names at
once are refused. -/
def field? (names : List Text) (read : Value → Option α) (default : α)
    (fields : List (Text × Value)) : Option α :=
  match fields.filter (names.contains ·.1) with
  | [] => some default
  | [(_, v)] => read v
  | _ => none

end Value

end MarkupBridge
