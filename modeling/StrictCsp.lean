import StrictCsp.Cli.Arguments
import StrictCsp.Cli.Document
import StrictCsp.Cli.Files
import StrictCsp.Cli.Run
import StrictCsp.Config.File
import StrictCsp.Config.Settings
import StrictCsp.Crypto.Sha2
import StrictCsp.EngineError
import StrictCsp.Entropy.ChaCha
import StrictCsp.Entropy.Source
import StrictCsp.Fragment.Attribute
import StrictCsp.Fragment.Restyle
import StrictCsp.Fragment.Segment
import StrictCsp.Fragment.Token
import StrictCsp.Main
import StrictCsp.Markup.Entity.Codec
import StrictCsp.Markup.Entity.Table
import StrictCsp.Markup.NonceAttr
import StrictCsp.Markup.Pattern.Handler
import StrictCsp.Markup.Pattern.Link
import StrictCsp.Markup.Pattern.Step
import StrictCsp.Markup.Pattern.Tag
import StrictCsp.Markup.ScriptLink
import StrictCsp.Middleware
import StrictCsp.Nonce
import StrictCsp.Page
import StrictCsp.PartialResponse
import StrictCsp.Policy.Assemble
import StrictCsp.Policy.Budget
import StrictCsp.Policy.Digest
import StrictCsp.Policy.Harvest
import StrictCsp.Processor
import StrictCsp.Text.Base64
import StrictCsp.Text.Blank
import StrictCsp.Text.Bytes
import StrictCsp.Text.Float
import StrictCsp.Text.Fold
import StrictCsp.Text.Scan
import StrictCsp.Text.Search
import StrictCsp.Text.Similarity
import StrictCsp.Yaml.Parser
import StrictCsp.Yaml.Resolve
import StrictCsp.Yaml.Scanner
import StrictCsp.Yaml.Token
import StrictCsp.Proofs.FailOpen
import StrictCsp.Proofs.NeutralizeFixpoint
import StrictCsp.Proofs.CdataFraming
import StrictCsp.Proofs.HandlerAllowlist
import StrictCsp.Proofs.DegradedPolicy
import StrictCsp.Proofs.MiddlewareContract
import StrictCsp.Proofs.ServedDigests
import StrictCsp.Fragment.TagMarkup
import StrictCsp.Fragment.WrittenTag
import StrictCsp.Fragment.Tour
import StrictCsp.Fragment.RestyledWalk
import StrictCsp.Proofs.RestyleFixpoint
import StrictCsp.Proofs.NonceFixpoint
import StrictCsp.Entropy.Values
import StrictCsp.Fragment.TagStream
import StrictCsp.Fragment.Draws
import StrictCsp.Proofs.EntropyAccounting
import StrictCsp.Fragment.TagPlaces
import StrictCsp.Fragment.ReadThrough
import StrictCsp.Proofs.RestyledSpans
import StrictCsp.Fragment.AttributeText
import StrictCsp.Proofs.StyleGate
import StrictCsp.Proofs.SettingsLayers
import StrictCsp.Proofs.TemplateFilling
import StrictCsp.Proofs.EnforcedDelivery
import StrictCsp.Proofs.RestyledTagReading
import StrictCsp.Proofs.DigestSetRuns
import StrictCsp.Proofs.SegmentProgress
