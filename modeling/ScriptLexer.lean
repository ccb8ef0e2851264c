import ScriptLexer.Log
import ScriptLexer.Proofs.Comments
import ScriptLexer.Proofs.Layout
import ScriptLexer.Proofs.LineBreaks
import ScriptLexer.Proofs.Tiling
import ScriptLexer.Proofs.ContextHistory
import ScriptLexer.Proofs.BlockParams
import ScriptLexer.Proofs.Progress
import ScriptLexer.Proofs.LineJoints
import ScriptLexer.Proofs.BlockMode
import ScriptLexer.Proofs.Lookahead
import ScriptLexer.Proofs.StrayCharacters
import ScriptLexer.Proofs.CarriageReturns
import ScriptLexer.Proofs.LineNumbers
import ScriptLexer.Proofs.MixedRequests
import ScriptLexer.Proofs.QuotedText
import ScriptLexer.Proofs.LongestPrefix
import ScriptLexer.Proofs.Numerals
import ScriptLexer.Proofs.SymbolMatching
import ScriptLexer.Proofs.Utf8Faults
import ScriptLexer.Proofs.Words
import ScriptLexer.Proofs.Spellings
import ScriptLexer.Proofs.LogEvents
import ScriptLexer.Proofs.RenderedTokens
import ScriptLexer.Proofs.CursorMoves
