import MailSync.Text.Blank

/-!
# Mail addresses

An address with an optional display name, written `name <address>` or as the address alone. Reading
takes the last pair of angle brackets for the address and what stands before it for the name, which
may be quoted.
-/

namespace MailSync

/-- A mail address with an optional display name. -/
structure Address where
  /-- The display name. -/
  name : Option String
  /-- The address itself. -/
  email : String
  deriving DecidableEq, Repr

namespace Address

/-- A text split at the last occurrence of a character: what stands before it and behind it. -/
def splitLast? (c : Char) : List Char → Option (List Char × List Char)
  | [] => none
  | d :: rest =>
    match splitLast? c rest with
    | some (before, behind) => some (d :: before, behind)
    | none => if d = c then some ([], rest) else none

/-- A display name as written before the address, without the blanks and quotes around it. -/
def nameOf (s : List Char) : Option String :=
  match Text.strip (· == '"') (Text.trim s) with
  | [] => none
  | name => some (String.ofList name)

/-- The address that a text without blanks at its ends writes. -/
def ofTrimmed (s : List Char) : Address :=
  match splitLast? '<' s with
  | none => ⟨none, String.ofList s⟩
  | some (before, behind) =>
    match splitLast? '>' behind with
    | none => ⟨none, String.ofList s⟩
    | some (inside, _) => ⟨nameOf before, String.ofList (Text.trim inside)⟩

/-- The address that a text writes. Every text writes one. -/
def parse (s : String) : Address :=
  ofTrimmed (Text.trim s.toList)

/-- The text of an address. -/
def display (a : Address) : String :=
  match a.name with
  | none => a.email
  | some name => name ++ " <" ++ a.email ++ ">"

end Address

end MailSync
