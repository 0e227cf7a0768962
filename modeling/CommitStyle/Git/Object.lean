import CommitStyle.Reader
import CommitStyle.Text.Utf8

/-!
# Objects of a repository

An object is named by a hash in forty hexadecimal digits. Commits and tags are read from their
content; the other kinds of object are of no use here. That an object has the hash that it is named by
is not checked.
-/

namespace CommitStyle.Git

def isHex (chars : List Char) : Bool := chars.all (isDigitIn 16)

structure ObjectId where
  digits : String
  length_eq : digits.length = 40
  isHex_eq : isHex digits.toList = true
  deriving DecidableEq

def ObjectId.ofChars? (chars : List Char) : Option ObjectId :=
  let digits := String.ofList (chars.map Char.toLower)
  if h : digits.length = 40 ∧ isHex digits.toList = true then some ⟨digits, h.1, h.2⟩ else none

inductive Object where
  | commit (parents : List ObjectId) (message : String)
  | tag (target : ObjectId)
  | other

namespace Object

def plain (bytes : List UInt8) : List Char := bytes.map fun b => Char.ofNat b.toNat

/-- The lines of bytes up to the first empty one, and what follows it. -/
def splitHeader : List UInt8 → List UInt8 × List UInt8
  | 10 :: 10 :: rest => ([10], rest)
  | byte :: rest =>
    let (header, message) := splitHeader rest
    (byte :: header, message)
  | [] => ([], [])

def headerLines (header : List UInt8) : List (List Char) := (plain header).splitOn '\n'

def idsAfter (word : String) (lines : List (List Char)) : List ObjectId :=
  lines.filterMap fun line =>
    if (word ++ " ").toList.isPrefixOf line then
      ObjectId.ofChars? (line.drop (word.length + 1))
    else none

/-- The text of a message, without line feeds at its start and up to the first zero byte. -/
def messageText (bytes : List UInt8) : String :=
  Text.Utf8.decode ((bytes.dropWhile (· == 10)).takeWhile (· != 0))

/-- The object that bytes write: its kind and size, a zero byte, and its content. -/
def ofBytes? (bytes : List UInt8) : Option Object := do
  let announced := plain (bytes.takeWhile (· != 0))
  let content := (bytes.dropWhile (· != 0)).drop 1
  guard (announced.dropWhile (· != ' ') = ' ' :: (toString content.length).toList)
  let (header, message) := splitHeader content
  let lines := headerLines header
  match String.ofList (announced.takeWhile (· != ' ')) with
  | "commit" => return .commit (idsAfter "parent" lines) (messageText message)
  | "tag" => (idsAfter "object" lines).head?.map tag
  | "tree" | "blob" => return other
  | _ => none

end Object

end CommitStyle.Git
