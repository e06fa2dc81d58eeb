import CssTrim.Cache
import CssTrim.Cache.Key
import CssTrim.Main
import CssTrim.Proofs.Lexeme.Reading
import CssTrim.Proofs.Block.Cut
import CssTrim.Proofs.Block.Segment
import CssTrim.Proofs.Block.Serialize
import CssTrim.Proofs.Block.Braces
import CssTrim.Proofs.Filter
import CssTrim.Proofs.Classify
import CssTrim.Proofs.Classify.Monotone
import CssTrim.Proofs.Classify.UsedClass
import CssTrim.Proofs.Classify.Agree
import CssTrim.Proofs.Media.Combine
import CssTrim.Proofs.Stylesheet.Purge
import CssTrim.Proofs.Stylesheet.Bundle
import CssTrim.Proofs.Stylesheet.Optimize
import CssTrim.Proofs.Stylesheet.Split
import CssTrim.Proofs.Media.Regroup
import CssTrim.Proofs.Block.Settled
import CssTrim.Proofs.Block.Bundle
import CssTrim.Proofs.Media.Nested
import CssTrim.Proofs.Media.Cascade
import CssTrim.Proofs.Text.Recognizer
import CssTrim.Proofs.Markup.Tag
import CssTrim.Proofs.Markup.Rejection
import CssTrim.Proofs.Usage.Mention
import CssTrim.Proofs.Usage.Kind
import CssTrim.Proofs.Usage.Phrase
import CssTrim.Proofs.Usage.Attribute
import CssTrim.Proofs.Lexeme.Comments
import CssTrim.Proofs.Stylesheet.Documents
import CssTrim.Proofs.Block.Comments
import CssTrim.Proofs.Selector.Scan
import CssTrim.Proofs.Selector.Grammar
import CssTrim.Proofs.Selector.Parse
import CssTrim.Proofs.Critical
import CssTrim.Proofs.Stylesheet.Critical
import CssTrim.Proofs.Cache
import CssTrim.Proofs.Usage.Literal
import CssTrim.Proofs.Usage.Expression
import CssTrim.Proofs.Classify.Comments
import CssTrim.Proofs.Stylesheet.Comments
import CssTrim.Proofs.Folder
import CssTrim.Proofs.Text.Utf8
import CssTrim.Proofs.Tool.Backup
import CssTrim.Proofs.Block.Stripping
import CssTrim.Proofs.Selector.Spelling
import CssTrim.Proofs.Classify.AttributeName
import CssTrim.Proofs.Selector.Token
import CssTrim.Proofs.Selector.Cuts
import CssTrim.Proofs.Selector.Compounds
import CssTrim.Proofs.Text.Quoted
import CssTrim.Proofs.Value
import CssTrim.Proofs.Cache.Key
import CssTrim.Proofs.Settings.Checked
import CssTrim.Proofs.Settings.Load
import CssTrim.Proofs.Settings.Patterns
import CssTrim.Proofs.Stylesheet.Whitelisted
import CssTrim.Proofs.Selector.Mark
import CssTrim.Proofs.Stylesheet.Mark
import CssTrim.Proofs.Block.Blank
import CssTrim.Proofs.Block.Header
import CssTrim.Proofs.Block.Reachable
import CssTrim.Proofs.Media.Query
import CssTrim.Proofs.Media.Rewrite
import CssTrim.Proofs.Stylesheet.Combine
import CssTrim.Proofs.Selector.Alternatives
