import NymVpn.Netfilter.NftScript
import NymVpn.Text.Ascii
import NymVpn.Text.Str

/-!
# Files included into a table

Such a file holds sets, and chains with their rules. A word ends at a blank, a brace, a
semicolon or the end of the line; a comment runs to the end of the line.
-/

namespace Netfilter.Nft

open Net Text

/-! ## Tokens -/

inductive Token where
  | word (text : String)
  | separator
  | opens
  | closes

def isBlank (c : Char) : Bool := c == ' ' || c == '\t'

def punctuation (c : Char) : Option Token :=
  if c = ';' then some .separator
  else if c = '\x7b' then some .opens
  else if c = '\x7d' then some .closes
  else none

def pending (cs : List Char) : List Token := if cs = [] then [] else [.word (.ofList cs)]

def splitField (word : List Char) : List Char → List Token
  | [] => pending word
  | c :: cs =>
    match punctuation c with
    | some t => pending word ++ t :: splitField [] cs
    | none => splitField (word ++ [c]) cs

def lineTokens (line : String) : List Token :=
  (fields isBlank (.ofList (line.toList.takeWhile (· ≠ '#')))).flatMap fun f =>
    splitField [] f.toList

def tokens (s : String) : List Token :=
  (lines s).flatMap fun line => lineTokens line ++ [.separator]

/-! ## Blocks -/

structure Block where
  head : List String
  body : List (List String)

/-- The blocks that were read, the one that is open, and the words of the last statement. -/
structure Reading where
  blocks : List Block
  opened : Option Block
  words : List String

namespace Reading

/-- A statement outside a block is not read. -/
def endStatement (r : Reading) : Option Reading :=
  if r.words = [] then some r
  else r.opened.map fun b =>
    { r with opened := some { b with body := b.body ++ [r.words] }, words := [] }

def read (r : Reading) : Token → Option Reading
  | .word w => some { r with words := r.words ++ [w] }
  | .separator => r.endStatement
  | .opens =>
    if r.opened = none then some { r with opened := some ⟨r.words, []⟩, words := [] } else none
  | .closes => do
    let r ← r.endStatement
    let b ← r.opened
    return { r with blocks := r.blocks ++ [b], opened := none }

end Reading

namespace Reading

def line (r : Reading) (l : String) : Option Reading :=
  (lineTokens l ++ [Token.separator]).foldlM read r

variable {blocks : List Block} {b : Block} {l : String} {ws : List String}
  {statements : List (List (List String))} {ls : List String}

end Reading

end Netfilter.Nft
