import VZstd.Frame.Bound
import VZstd.Frame.RoundTrip
import VZstd.Frame.Sizes
import VZstd.Frame.Header
import VZstd.Xxh64
import VZstd.OneShot.Sizes
import VZstd.Stream.Staging
import VZstd.Stream.Delivery
import VZstd.Stream.Isolation
import VZstd.Stream.Stable
import VZstd.Stream.Moves
import VZstd.Stream.LoopEnd
import VZstd.Stream.Shared
import VZstd.Forwarding
import VZstd.CompressEnd
import VZstd.DecompressFrames
import VZstd.DecompressRuns
import VZstd.OneShot.Frames
import VZstd.Frame.CompressStream
import VZstd.Frame.StreamFrames
import VZstd.Frame.StreamOpen
import VZstd.Frame.StreamProgress
import VZstd.Frame.DecompressOpen
import VZstd.Frame.DecompressRing
import VZstd.Frame.DecompressTurns
import VZstd.Frame.DecompressHeader
import VZstd.Frame.DecompressCodec
import VZstd.Frame.DecompressReply
import VZstd.Frame.DecompressSession
import VZstd.Frame.StreamRoundTrip
import VZstd.Frame.DecompressEnds
import VZstd.Frame.StreamEnd
import VZstd.Lib.Beginnings
import VZstd.Frame.DecompressContract
