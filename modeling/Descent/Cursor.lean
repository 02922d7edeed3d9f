import Descent.Event
import Descent.Feed
import Descent.Options

/-!
# The Cursor

A recursive-descent parser looks at one token and decides what to do. The
cursor holds that token, the feed that the next one comes from, and the
settings by which problems are presented. It is a value: an operation that
moves on gives a new cursor, and one that only looks has none to give.

## Main definitions

* `Cursor`: The current token and the feed behind it.
* `Cursor.ofFeed`: A cursor on the first token of a feed.
* `Cursor.advance`: Moves to the next token.
* `Cursor.isAtEnd`: Whether nothing is left to parse.
-/

namespace Descent

open Text

/-- The current token and the feed behind it. -/
structure Cursor (σ : Type) where
  /-- The next token to parse, if the feed gave one. -/
  token : Option Token
  feed : σ
  options : Options
  formatter : Formatter

namespace Cursor

variable {σ : Type} [TokenFeed σ]

/-- A cursor on the first token of a feed, with the standard settings. -/
def ofFeed (feed : σ) : Cursor σ :=
  { token := (TokenFeed.next feed).1
    feed := (TokenFeed.next feed).2
    options := .standard
    formatter := snippet }

/-- The cursor behind its token. -/
def next (c : Cursor σ) : Cursor σ :=
  { c with token := (TokenFeed.next c.feed).1, feed := (TokenFeed.next c.feed).2 }

/-- Moves to the next token, and says so. -/
def advance (c : Cursor σ) : Logged (Cursor σ) :=
  ⟨c.next, [.advanced c.next.token]⟩

/-- The last token that the feed gave. -/
def last? (c : Cursor σ) : Option Token :=
  TokenFeed.last? c.feed

omit [TokenFeed σ]

/-- Whether nothing is left to parse: no token, or the mark at the end. -/
def isAtEnd (c : Cursor σ) : Bool :=
  c.token.all (·.isEnd)

/-- The name of the file as messages show it. -/
def filename (c : Cursor σ) : String :=
  c.options.shownFilename

/-- The same cursor with other options. -/
def withOptions (c : Cursor σ) (options : Options) : Cursor σ :=
  { c with options }

/-- The same cursor with another file name. -/
def withFilename (c : Cursor σ) (filename : String) : Cursor σ :=
  { c with options := { c.options with filename := some filename } }

/-- The same cursor with another formatter. -/
def withFormatter (c : Cursor σ) (formatter : Formatter) : Cursor σ :=
  { c with formatter }

/-- The same cursor on a token of the caller's choice. -/
def withToken (c : Cursor σ) (token : Option Token) : Cursor σ :=
  { c with token }

/-- The structure of a cursor; its feed and its formatter are not shown. -/
def form (c : Cursor σ) : Form :=
  .record "Context"
    [("token", .option (c.token.map (·.form))), ("options", c.options.form)] true

end Cursor

end Descent
