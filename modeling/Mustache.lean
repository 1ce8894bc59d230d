import Mustache.Engine
import Mustache.Host.Scripted
import Mustache.Location.Value
import Mustache.Scanner.Free
import Mustache.Token.Display
import Mustache.Proofs.Cut
import Mustache.Proofs.Tag
import Mustache.Proofs.Reading
import Mustache.Proofs.FirstFault
import Mustache.Proofs.Nested
import Mustache.Proofs.TagForm
import Mustache.Proofs.Tiling
import Mustache.Proofs.Laid
import Mustache.Proofs.Layout
import Mustache.Proofs.Lines
import Mustache.Proofs.Standalone
import Mustache.Proofs.Keeping
import Mustache.Proofs.Keeping.Functions
import Mustache.Proofs.Keeping.Rendering
import Mustache.Proofs.Keeping.Requests
import Mustache.Proofs.Keeping.Engine
import Mustache.Proofs.Keeping.Operations
import Mustache.Proofs.Serving
import Mustache.Proofs.Transparency
import Mustache.Proofs.Json.Scalar
import Mustache.Proofs.Json.RoundTrip
import Mustache.Proofs.Json.Tokens
import Mustache.Proofs.Json.Restated
import Mustache.Proofs.Unlined
import Mustache.Proofs.Forest
import Mustache.Proofs.Forest.Reading
import Mustache.Proofs.Forest.Parse
import Mustache.Proofs.Part
import Mustache.Proofs.Visible
import Mustache.Proofs.Moved
import Mustache.Proofs.Inner
import Mustache.Proofs.LineBefore
import Mustache.Proofs.Sound
import Mustache.Proofs.Owned
import Mustache.Proofs.Owned.Tracking
import Mustache.Proofs.Enclosed
import Mustache.Proofs.Solid
import Mustache.Proofs.Shifted
import Mustache.Proofs.LineBreak
import Mustache.Proofs.Laws
import Mustache.Proofs.Laws.Rendering
import Mustache.Proofs.Laws.Requests
import Mustache.Proofs.Laws.Sources
import Mustache.Proofs.Consulting
import Mustache.Proofs.Leading
import Mustache.Proofs.Course
import Mustache.Proofs.Course.Rendering
import Mustache.Proofs.Escaping
import Mustache.Proofs.Keys
import Mustache.Proofs.Spread
import Mustache.Proofs.Spread.Reading
import Mustache.Proofs.Spread.Parse
import Mustache.Proofs.Spread.Resembling
import Mustache.Proofs.References
import Mustache.Proofs.Plain
import Mustache.Proofs.Succeeding
import Mustache.Proofs.Misses
import Mustache.Proofs.Steady
import Mustache.Proofs.Contexts
import Mustache.Proofs.Contexts.Memory
import Mustache.Proofs.Shadowing
import Mustache.Proofs.Leading.Engine
import Mustache.Proofs.Overheard
import Mustache.Proofs.Reckoning
import Mustache.Proofs.Reckoning.Session
import Mustache.Proofs.Reckoning.Operations
import Mustache.Proofs.Recount
import Mustache.Proofs.Doubled
import Mustache.Proofs.Inert
import Mustache.Proofs.Mirrored
import Mustache.Proofs.Mirrored.Rendering
import Mustache.Proofs.Secluded
import Mustache.Proofs.Switches
import Mustache.Proofs.Places
import Mustache.Proofs.Turns
import Mustache.Proofs.Complementary
import Mustache.Proofs.Emptiness
import Mustache.Proofs.Sourceless
import Mustache.Proofs.Unescaping
import Mustache.Proofs.Shortcut
import Mustache.Proofs.Margins
import Mustache.Proofs.Scanning
import Mustache.Proofs.Buffer
import Mustache.Proofs.Frames
import Mustache.Proofs.Settings.Delimiters
import Mustache.Proofs.Settings
