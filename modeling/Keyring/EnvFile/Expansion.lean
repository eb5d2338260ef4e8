import Keyring.EnvFile
import Keyring.Host

/-!
References inside the values of a file: `${NAME}` and `${NAME:-DEFAULT}` are replaced by
the value of an earlier statement, else of an environment variable, else by the default
or nothing. A statement without a value hides the environment variable of its name.
-/

namespace Keyring.EnvFile

/-- A reference: the name it refers to and what stands in for a missing variable. -/
structure Reference where
  name : List Char
  default : List Char

/-- Reads a reference behind its `${`, with what follows the closing brace. -/
def readReference (text : List Char) : Option (Reference × List Char) :=
  let name := text.takeWhile fun c => c ≠ '}' ∧ c ≠ ':'
  match text.dropWhile fun c => c ≠ '}' ∧ c ≠ ':' with
  | '}' :: rest => some (⟨name, []⟩, rest)
  | ':' :: '-' :: body =>
    match body.dropWhile (· ≠ '}') with
    | _ :: rest => some (⟨name, body.takeWhile (· ≠ '}')⟩, rest)
    | [] => none
  | _ => none

/-- What follows a reference is shorter than the text it was read from. -/
theorem length_readReference {text rest : List Char} {reference : Reference}
    (read : readReference text = some (reference, rest)) : rest.length < text.length := by
  have outer : (text.dropWhile fun c => c ≠ '}' ∧ c ≠ ':').length ≤ text.length :=
    (List.dropWhile_suffix _).length_le
  unfold readReference at read
  split at read
  · rename_i tail eq
    cases read
    rw [eq, List.length_cons] at outer
    omega
  · rename_i body eq
    split at read
    · rename_i last tail inner
      cases read
      have closing : (body.dropWhile (· ≠ '}')).length ≤ body.length :=
        (List.dropWhile_suffix _).length_le
      rw [inner, List.length_cons] at closing
      rw [eq, List.length_cons, List.length_cons] at outer
      omega
    · cases read
  · cases read

/-- Replaces every reference in a text by the given values. -/
def expand (valueOf : Reference → List Char) (text : List Char) : List Char :=
  match text with
  | '$' :: '{' :: body =>
    match h : readReference body with
    | some (reference, rest) =>
      have := length_readReference h
      valueOf reference ++ expand valueOf rest
    | none => '$' :: expand valueOf ('{' :: body)
  | c :: rest => c :: expand valueOf rest
  | [] => []
  termination_by text.length

/-- Values by name in the order in which the names first appear. -/
abbrev Values := List (String × Option (List Char))

namespace Values

/-- Gives a name a value, at its place when it has one already, else behind the others. -/
def set (values : Values) (name : String) (value : Option (List Char)) : Values :=
  if values.any (·.1 == name) then
    values.map fun entry => if entry.1 == name then (name, value) else entry
  else values ++ [(name, value)]

/-- What a reference comes to after the statements that gave `values`. -/
def resolve (values : Values) (environment : Environment) (reference : Reference) : List Char :=
  let name := String.ofList reference.name
  match values.lookup name with
  | some value => value.getD []
  | none =>
    match environment.get? name with
    | some value => value.toList
    | none => reference.default

end Values

/-- The values that statements give in order, each seeing those before it. -/
def evaluate (environment : Environment) (entries : Values) : Values :=
  entries.foldl
    (fun values (name, value) =>
      values.set name (value.map (expand (values.resolve environment))))
    []

end Keyring.EnvFile
