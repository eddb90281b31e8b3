import MarkupSearch.CommandLine
import MarkupSearch.Main
import MarkupSearch.Node.Json
import MarkupSearch.Selector.Json
import MarkupSearch.Proofs.Alike
import MarkupSearch.Proofs.Numbering
import MarkupSearch.Proofs.Unambiguous
import MarkupSearch.Proofs.Escaping
import MarkupSearch.Proofs.Forest
import MarkupSearch.Proofs.SelectorText
import MarkupSearch.Proofs.WrittenTree
import MarkupSearch.Proofs.Reloading
import MarkupSearch.Proofs.PageOrder
import MarkupSearch.Proofs.Report
import MarkupSearch.Proofs.TextContent
import MarkupSearch.Proofs.BlankText
import MarkupSearch.Proofs.JsonForms
import MarkupSearch.Proofs.Subtrees
import MarkupSearch.Proofs.Comments
import MarkupSearch.Proofs.Growth
import MarkupSearch.Proofs.Additions
import MarkupSearch.Proofs.Finders
import MarkupSearch.Proofs.EscapedValues
import MarkupSearch.Proofs.AllOrNothing
import MarkupSearch.Proofs.LoopsEnd
