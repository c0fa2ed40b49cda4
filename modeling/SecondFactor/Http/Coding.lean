import SecondFactor.Deflate
import SecondFactor.Text.Blank
import SecondFactor.Text.Split

/-!
# Content codings

The body of a response may be compressed, even several times. Codings of other names are not undone.
-/

namespace SecondFactor.Http

/-- The codings that are undone. -/
inductive Coding where
  | gzip
  | deflate
  deriving DecidableEq, Repr

namespace Coding

/-- The coding that a word in any case stands for. -/
def ofWord? (word : List Char) : Option Coding :=
  match String.ofList (word.map Char.toLower) with
  | "gzip" => some gzip
  | "deflate" => some deflate
  | _ => none

/-- The codings that a header lists, in the order in which they were applied. -/
def ofHeader (header : String) : List Coding :=
  (Split.on ',' header.toList).filterMap fun word => ofWord? (Blank.trimBy Blank.isBlank word)

/-- Undoes a coding. A stream that should have a head and a check may come without them. -/
def undo (c : Coding) (body : Bytes) : Option Bytes :=
  match c with
  | gzip => Deflate.decompress .gzip body
  | deflate => Deflate.decompress .zlib body <|> Deflate.decompress .bare body

end Coding

end SecondFactor.Http
