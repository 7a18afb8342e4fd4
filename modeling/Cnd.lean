import Cnd.Main
import Cnd.Proofs.Artifact.Content
import Cnd.Proofs.Command.Check
import Cnd.Proofs.Completion.Document
import Cnd.Proofs.Composition
import Cnd.Proofs.Config.Load
import Cnd.Proofs.Grammar.Casing
import Cnd.Proofs.Layout.Respell
import Cnd.Proofs.Lexical.Requests
import Cnd.Proofs.Lookahead.Document
import Cnd.Proofs.Phrases.Kind
import Cnd.Proofs.Phrases.Last
import Cnd.Proofs.Phrases.Reorder
import Cnd.Proofs.Prefixes.Document
import Cnd.Proofs.Queue.Matching
import Cnd.Proofs.Schema.Supertypes
import Cnd.Proofs.Text.Ascii
import Cnd.Proofs.Trace
import Cnd.Proofs.Writing.Parsed
import Cnd.Proofs.Writing.Word
