import Keyring.Host
import Keyring.Text.Utf8

/-!
The tables in which a Unix system gives a process its surroundings: the block of the words that
it was started with, the block of its environment variables, its status with the number of its
user, and the table of users. Words are taken whatever their bytes; of the rest, what is not
UTF-8, or not of the right shape, is passed over.
-/

namespace Keyring

def partsBetween {α : Type} [BEq α] (separator : α) : List α → List (List α)
  | [] => [[]]
  | x :: rest =>
    if x == separator then [] :: partsBetween separator rest
    else match partsBetween separator rest with
      | [] => [[x]]
      | first :: others => (x :: first) :: others

/-- The last words, so many of them, in a block of words each ended by a null byte. -/
def wordsOfBlock (count : Nat) (block : Bytes) : List RawText :=
  let words := (partsBetween 0 block).dropLast
  (words.drop (words.length - count)).map .ofSystemBytes

/-- The environment in a block of `NAME=VALUE` entries, each ended by a null byte. -/
def Environment.ofBlock (block : Bytes) : Environment :=
  (partsBetween 0 block).filterMap fun entry =>
    match Utf8.decode entry with
    | .error _ => none
    | .ok text =>
      match text.dropWhile (· ≠ '=') with
      | [] => none
      | _ :: value => some (String.ofList (text.takeWhile (· ≠ '=')), String.ofList value)

/-- The lines of a table, split at a separator. -/
def tableRows (separator : Char) (table : Bytes) : List (List String) :=
  (partsBetween 10 table).filterMap fun line =>
    match Utf8.decode line with
    | .error _ => none
    | .ok text => some ((partsBetween separator text).map String.ofList)

/-- The accounts in a table of users: `name:…:number:…:…:home:…` a line. -/
def accountsOfTable (table : Bytes) : List (Nat × Account) :=
  (tableRows ':' table).filterMap fun row =>
    match row with
    | name :: _ :: number :: _ :: _ :: home :: _ =>
      number.toNat?.map fun userId => (userId, ⟨some name, some home⟩)
    | _ => none

/-- The number of the user in the status of a process, on the line that starts `Uid:`. -/
def userIdOfStatus (status : Bytes) : Option Nat :=
  (tableRows '\t' status).findSome? fun row =>
    match row with
    | "Uid:" :: number :: _ => number.toNat?
    | _ => none

end Keyring
