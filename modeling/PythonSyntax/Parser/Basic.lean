import PythonSyntax.SyntaxError
import PythonSyntax.Token
import PythonSyntax.Unicode.Normalization

/-
Parsing token streams.

A parser runs on a `Cursor`: the tokens, a position among them, and how deep it stands in brackets,
blocks and chains of operators.  It moves on by counting up the position, and goes a level deeper by
counting up the depth, on which there is a limit.  What it comes to depends only on the tokens that
are seen from the position on and on the depth: the denotation says it, as a value with the rest of
a stream or an error.  A run that does what a denotation says also keeps the tokens and comes back to
the depth at which it began; that it does is a part of every parser.
-/

namespace PythonSyntax

/-- How deep a program may nest, and how deep the parser stands. -/
structure Nesting where
  limit : Nat
  depth : Nat
deriving DecidableEq, Repr

/-! ## Streams and cursors -/

/-- The first token of a stream; an empty stream is at its end. -/
def Parser.current : List Token → Token
  | [] => ⟨.endMarker, "", ⟨0, 0⟩⟩
  | t :: _ => t

/-- A stream without its first token.  The last token stays. -/
def Parser.dropCurrent : List Token → List Token
  | _ :: t :: ts => t :: ts
  | ts => ts

/-- Where a parser stands: the tokens before its position, the nearest one first, those from the
position on, and the depth. -/
structure Cursor where
  taken : List Token
  ahead : List Token
  depth : Nat
deriving DecidableEq

namespace Cursor

/-- In front of some tokens. -/
def start (tokens : List Token) (depth : Nat) : Cursor := ⟨[], tokens, depth⟩

/-- All tokens. -/
def tokens (c : Cursor) : List Token := c.taken.reverse ++ c.ahead

/-- The number of tokens before the position. -/
def position (c : Cursor) : Nat := c.taken.length

/-- What is seen from the position on.  Behind the last token that one is still seen. -/
def view (c : Cursor) : List Token :=
  match c.ahead with
  | [] => c.taken.head?.toList
  | t :: ts => t :: ts

/-- One token further, if there is one. -/
def advance (c : Cursor) : Cursor :=
  match c.ahead with
  | [] => c
  | t :: ts => { c with taken := t :: c.taken, ahead := ts }

theorem view_start (tokens : List Token) (depth : Nat) : (start tokens depth).view = tokens := by
  cases tokens <;> rfl

theorem depth_advance (c : Cursor) : c.advance.depth = c.depth := by
  unfold advance
  split <;> rfl

theorem tokens_advance (c : Cursor) : c.advance.tokens = c.tokens := by
  obtain ⟨taken, ahead, depth⟩ := c
  cases ahead <;> simp [advance, tokens]

theorem length_tokens (c : Cursor) : c.tokens.length = c.position + c.ahead.length := by
  rw [tokens, List.length_append, List.length_reverse]
  rfl

theorem view_advance (c : Cursor) : c.advance.view = Parser.dropCurrent c.view := by
  obtain ⟨taken, ahead, depth⟩ := c
  match ahead with
  | [] => cases taken <;> rfl
  | [t] => rfl
  | t :: u :: ts => rfl

end Cursor

/-! ## Parsers -/

/-- What is done to a cursor under a limit on its depth: a value or an error, and where it led. -/
abbrev Run (α : Type) := Nat → Cursor → Except SyntaxError α × Cursor

/-- What is made of a stream: a value and the rest of it, or an error. -/
abbrev Denotation (α : Type) := Nesting → List Token → Except SyntaxError (α × List Token)

variable {α β σ : Type}

/-- A result at the end of a run that began at `c` is that of what `c` shows; the tokens and the
depth are those of `c`. -/
structure Follows (c : Cursor) (result : Except SyntaxError α × Cursor)
    (denoted : Except SyntaxError (α × List Token)) : Prop where
  agrees : denoted = result.1.map fun a => (a, result.2.view)
  depth : result.2.depth = c.depth
  tokens : result.2.tokens = c.tokens

/-- A parser of values of a type. -/
structure Parser (α : Type) where
  exec : Run α
  denote : Denotation α
  follows : ∀ limit c, Follows c (exec limit c) (denote ⟨limit, c.depth⟩ c.view)

namespace Parser

/-- One run, and then another from where it led. -/
def execBind (run : Run α) (next : α → Run β) : Run β := fun limit c =>
  match run limit c with
  | (.ok a, c) => next a limit c
  | (.error e, c) => (.error e, c)

/-- A parser that stays where it is. -/
def still (look : Nesting → List Token → Except SyntaxError α) : Parser α where
  exec limit c := (look ⟨limit, c.depth⟩ c.view, c)
  denote n ts := (look n ts).map fun a => (a, ts)
  follows _ _ := ⟨rfl, rfl, rfl⟩

/-- One parser, and then another one that may depend on its value. -/
protected def bind (p : Parser α) (f : α → Parser β) : Parser β where
  exec := execBind p.exec fun a => (f a).exec
  denote n ts := p.denote n ts >>= fun (a, us) => (f a).denote n us
  follows limit c := by
    obtain ⟨hagrees, hdepth, htokens⟩ := p.follows limit c
    rw [hagrees, execBind]
    generalize p.exec limit c = r at hdepth htokens ⊢
    obtain ⟨e | a, d⟩ := r
    · exact ⟨rfl, hdepth, htokens⟩
    · obtain ⟨hagrees', hdepth', htokens'⟩ := (f a).follows limit d
      rw [show d.depth = c.depth from hdepth] at hagrees' hdepth'
      exact ⟨hagrees', hdepth', htokens'.trans htokens⟩

instance : Monad Parser where
  pure a := still fun _ _ => .ok a
  bind := Parser.bind

@[ext] protected theorem ext {p q : Parser α} (hexec : p.exec = q.exec) (hdenote : p.denote = q.denote) :
    p = q := by
  cases p
  cases q
  cases hexec
  cases hdenote
  rfl

instance : LawfulMonad Parser := by
  refine LawfulMonad.mk' Parser (fun p => ?_) (fun _ _ => rfl) fun p f g => ?_
  · refine Parser.ext (funext fun limit => funext fun c => ?_) (funext fun n => funext fun ts => ?_)
    · show execBind p.exec (fun a _ c => (.ok a, c)) limit c = p.exec limit c
      rw [execBind]
      obtain ⟨e | a, d⟩ := p.exec limit c <;> rfl
    · show (p.denote n ts >>= fun (a, us) => .ok (a, us)) = p.denote n ts
      obtain e | r := p.denote n ts <;> rfl
  · refine Parser.ext (funext fun limit => funext fun c => ?_) (funext fun n => funext fun ts => ?_)
    · show execBind (execBind p.exec fun a => (f a).exec) (fun b => (g b).exec) limit c =
        execBind p.exec (fun a => execBind (f a).exec fun b => (g b).exec) limit c
      simp only [execBind]
      obtain ⟨e | a, d⟩ := p.exec limit c <;> rfl
    · show ((p.denote n ts >>= fun (a, us) => (f a).denote n us) >>= fun (b, us) => (g b).denote n us) =
        p.denote n ts >>= fun (a, us) => (f a).denote n us >>= fun (b, us) => (g b).denote n us
      obtain e | r := p.denote n ts <;> rfl

/-! ## Looking at tokens -/

instance : MonadReaderOf Nesting Parser := ⟨still fun n _ => .ok n⟩

/-- The tokens from the current one on. -/
def remaining : Parser (List Token) := still fun _ ts => .ok ts

/-- The current token. -/
def peek : Parser Token := return current (← remaining)

/-- The token after the current one, or the last one. -/
def peekNext : Parser Token := return current (dropCurrent (← remaining))

/-- Takes the current token. -/
def advance : Parser Token where
  exec _ c := (.ok (current c.view), c.advance)
  denote _ ts := .ok (current ts, dropCurrent ts)
  follows _ c := ⟨by rw [Cursor.view_advance]; rfl, c.depth_advance, c.tokens_advance⟩

/-- Whether the current token is this operator. -/
def atOp (op : String) : Parser Bool := return (← peek).isOp op

/-- Whether the current token is this word. -/
def atWord (word : String) : Parser Bool := return (← peek).isWord word

/-- Whether the current token is of a kind. -/
def atKind (kind : TokenKind) : Parser Bool := return (← peek).kind == kind

/-! ## Failing -/

/-- The value of a computation that may fail. -/
def ofExcept (result : Except SyntaxError α) : Parser α := still fun _ _ => result

/-- Rejects with an error. -/
def reject (e : SyntaxError) : Parser α := ofExcept (.error e)

/-- Rejects the text of a span. -/
def failAt (span : Span) (cause : Cause) : Parser α := reject ⟨cause, span⟩

/-- Rejects the current token. -/
def fail (cause : Cause) : Parser α := do failAt (← peek).span cause

/-- Rejects the current token because it cannot continue the current rule. -/
def unexpected : Parser α := do
  match (← peek).kind with
  | .indent => fail .unexpectedIndent
  | .endMarker => fail .unexpectedEnd
  | _ => fail .unexpectedToken

/-! ## Taking tokens -/

/-- Takes the current token if it satisfies a test, and says whether it did. -/
def eatIf (test : Token → Bool) : Parser Bool := do
  if test (← peek) then
    let _ ← advance
    return true
  else return false

/-- Takes the current token if it is this operator. -/
def eatOp (op : String) : Parser Bool := eatIf (·.isOp op)

/-- Takes the current token if it is this word. -/
def eatWord (word : String) : Parser Bool := eatIf (·.isWord word)

/-- Takes the current token if a condition holds. -/
def advanceIf (condition : Bool) : Parser Unit := do
  if condition then
    let _ ← advance

/-- Takes the current token, which must satisfy a test. -/
def expect (test : Token → Bool) : Parser Token := do
  if test (← peek) then advance else unexpected

/-- Takes this operator. -/
def expectOp (op : String) : Parser Unit := do let _ ← expect (·.isOp op)

/-- Takes this word. -/
def expectWord (word : String) : Parser Unit := do let _ ← expect (·.isWord word)

/-- Takes the end of a logical line. -/
def expectNewline : Parser Unit := do let _ ← expect (·.kind == .newline)

/-- Takes a name that is not reserved: the spelling under which it is known. -/
def identifier : Parser String := return normalizeIdentifier (← expect Token.isIdentifier).text

/-! ## Combining parsers -/

/-- Comes back to the level above, if there is one. -/
def leave (r : Except SyntaxError α × Cursor) : Except SyntaxError α × Cursor :=
  match r.2.depth with
  | 0 => (.error ⟨.outOfFuel, (current r.2.view).span⟩, r.2)
  | depth + 1 => (r.1, { r.2 with depth := depth })

theorem follows_leave {c : Cursor} {r : Except SyntaxError α × Cursor}
    {denoted : Except SyntaxError (α × List Token)}
    (h : Follows { c with depth := c.depth + 1 } r denoted) : Follows c (leave r) denoted := by
  obtain ⟨result, taken, ahead, depth⟩ := r
  obtain ⟨hagrees, hdepth, htokens⟩ := h
  cases hdepth
  exact ⟨hagrees, rfl, htokens⟩

/-- Parses one level deeper, unless the limit is reached, and comes back after an error too. -/
def nested (cause : Cause) (p : Parser α) : Parser α where
  exec limit c :=
    if limit ≤ c.depth then (.error ⟨cause, (current c.view).span⟩, c)
    else leave (p.exec limit { c with depth := c.depth + 1 })
  denote n ts :=
    if n.limit ≤ n.depth then .error ⟨cause, (current ts).span⟩
    else p.denote { n with depth := n.depth + 1 } ts
  follows limit c := by
    dsimp only
    split
    · exact ⟨rfl, rfl, rfl⟩
    · exact follows_leave (p.follows limit { c with depth := c.depth + 1 })

/-- Parses another stream, and comes back to this one. -/
def withTokens (tokens : List Token) (p : Parser α) : Parser α where
  exec limit c := ((p.exec limit (.start tokens c.depth)).1, c)
  denote n ts := (p.denote n tokens).map fun (a, _) => (a, ts)
  follows limit c := by
    refine ⟨?_, rfl, rfl⟩
    have hagrees := (p.follows limit (.start tokens c.depth)).agrees
    rw [Cursor.view_start] at hagrees
    rw [show p.denote ⟨limit, c.depth⟩ tokens = _ from hagrees]
    obtain ⟨e | a, d⟩ := p.exec limit (.start tokens c.depth) <;> rfl

/-- Parses if a test holds. -/
def optional (test : Parser Bool) (p : Parser α) : Parser (Option α) := do
  if ← test then return some (← p) else return none

/-- Items up to the first `none`, fewer than there are entries in `bound`. -/
def manyUpTo (item : Parser (Option α)) : List Token → Parser (List α)
  | [] => fail .outOfFuel
  | _ :: bound => do
    match ← item with
    | none => return []
    | some a => return a :: (← manyUpTo item bound)

/-- Items up to the first `none`.  Each item must take a token, so the stream bounds their
number. -/
def many (item : Parser (Option α)) : Parser (List α) := do
  let tokens ← remaining
  manyUpTo item (current tokens :: tokens)

/-- An item, and further ones that each begin with the given token. -/
def sepBy (separator : Parser Bool) (item : Parser α) : Parser (List α) := do
  let first ← item
  let rest ← many (optional separator item)
  return first :: rest

/-- Steps from a state until one says to stop, fewer than there are entries in `bound`. -/
def iterateUpTo (step : σ → Parser (σ × Bool)) : List Token → σ → Parser σ
  | [], _ => fail .outOfFuel
  | _ :: bound, s => do
    let (s, goOn) ← step s
    if goOn then iterateUpTo step bound s else return s

/-- Steps from a state until one says to stop.  Each step that goes on must take a token. -/
def iterate (step : σ → Parser (σ × Bool)) (s : σ) : Parser σ := do
  let tokens ← remaining
  iterateUpTo step (current tokens :: tokens) s

end Parser

end PythonSyntax
