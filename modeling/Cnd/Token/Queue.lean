import Cnd.Token.Lexer

/-!
# The token queue

A parser sees a document as a queue of tokens that are scanned only when they are looked at.
The queue holds the tokens that were looked at and not yet taken; the token that ends the
stream is remembered and stands for everything behind the last one.

The stream under the queue may be any list of tokens. It may go on behind an end token, stop
without one, or fail once, after which nothing more comes.
-/

namespace Cnd

/-- Tokens that are still to be delivered, and the error that follows them, if any. -/
structure TokenStream where
  tokens : List Token
  failure : Option ScanError
deriving DecidableEq, Repr

namespace TokenStream

/-- The stream of a scanned text: its tokens, then the end token or the error. -/
def ofScan (s : Scan) : TokenStream :=
  match s.ending with
  | .ok p => ⟨s.tokens ++ [.atEnd p], none⟩
  | .error e => ⟨s.tokens, some e⟩

/-- Delivers the next token, or none behind the last one. -/
def pull : TokenStream → Except ScanError (Option Token) × TokenStream
  | ⟨t :: rest, failure⟩ => (.ok (some t), ⟨rest, failure⟩)
  | ⟨[], some e⟩ => (.error e, ⟨[], none⟩)
  | ⟨[], none⟩ => (.ok none, ⟨[], none⟩)

end TokenStream

/-- What can go wrong when a queue is asked for a token. -/
inductive TokenQueue.Failure where
  | scan (e : ScanError)
  | pastEnd
  | negativeLookahead (n : Int)
deriving DecidableEq, Repr

/-- A queue of tokens over a stream. -/
structure TokenQueue where
  /-- The tokens looked at and not yet taken, the front one first. -/
  buffer : List Token
  /-- The token that ended the stream, once it was reached. -/
  final : Option Token
  position : Nat
  pulled : Nat
  stream : TokenStream
deriving DecidableEq, Repr

namespace TokenQueue

/-- A queue nothing was asked of yet. -/
def ofStream (s : TokenStream) : TokenQueue := ⟨[], none, 0, 0, s⟩

namespace Failure

/-- What went wrong, in words. A scan error has a message of its own. -/
def text : Failure → String
  | scan e => e.text
  | pastEnd => "Cannot advance past the end of the token stream"
  | negativeLookahead n => s!"Lookahead offset must not be negative, got {n}"

end Failure

/-- The end token of a stream that stops without one: at the place of the last token in the
buffer. -/
def makeFinal (buffer : List Token) : Token :=
  .atEnd ((buffer.getLast?.map (·.position)).getD .start)

/-- Pulls tokens until `count` of them are in the buffer or the stream has ended. -/
def fill (count : Nat) (q : TokenQueue) : Option ScanError × TokenQueue :=
  if q.buffer.length < count ∧ q.final = none then
    match q.stream.pull with
    | (.error e, rest) => (some e, { q with stream := rest })
    | (.ok none, rest) => (none, { q with stream := rest, final := some (makeFinal q.buffer) })
    | (.ok (some t), rest) =>
      let q := { q with stream := rest, pulled := q.pulled + 1 }
      if t.kind = .eof then (none, { q with final := some t })
      else fill count { q with buffer := q.buffer ++ [t] }
  else (none, q)
termination_by count - q.buffer.length
decreasing_by simp; omega

/-- An operation on a queue. A failed one still leaves its mark on the queue. -/
abbrev Action (α : Type) := ExceptT Failure (StateM TokenQueue) α

/-- The token `n` places behind the front, without taking anything. -/
def peek (n : Int) : Action Token := fun q =>
  if n < 0 then (.error (.negativeLookahead n), q)
  else
    match q.fill (n.toNat + 1) with
    | (some e, q) => (.error (.scan e), q)
    | (none, q) => (.ok (q.buffer[n.toNat]?.getD (q.final.getD (makeFinal q.buffer))), q)

/-- Has the stream ended, with nothing left in the buffer? -/
def isEof : Action Bool := fun q =>
  match q.fill 1 with
  | (some e, q) => (.error (.scan e), q)
  | (none, q) => (.ok q.buffer.isEmpty, q)

def next : Action Token := fun q =>
  match q.fill 1 with
  | (some e, q) => (.error (.scan e), q)
  | (none, q) =>
    match q.buffer with
    | [] => (.error .pastEnd, q)
    | t :: rest => (.ok t, { q with buffer := rest, position := q.position + 1 })

end TokenQueue

end Cnd
