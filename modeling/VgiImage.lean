import VgiImage.Core.Outcome
import VgiImage.Core.RowLoop
import VgiImage.Core.BitDistance
import VgiImage.Core.ExactFloat
import VgiImage.Core.AspectRatio
import VgiImage.Core.GridBits
import VgiImage.Core.Segments
import VgiImage.Core.Stages
import VgiImage.Imaging.Image
import VgiImage.Imaging.Call
import VgiImage.Imaging.ReferenceCodec
import VgiImage.Imaging.Thumbnail
import VgiImage.Imaging.Reopen
import VgiImage.Imaging.Transforms
import VgiImage.Imaging.Exif
import VgiImage.Imaging.Gps
import VgiImage.Imaging.Hash
import VgiImage.Imaging.Fingerprint
import VgiImage.Arrow.Array
import VgiImage.Arrow.Builder
import VgiImage.ArrowIo
import VgiImage.Scalar.Function
import VgiImage.Scalar.Info
import VgiImage.Scalar.Exif
import VgiImage.Scalar.Hash
import VgiImage.Scalar.Transform
import VgiImage.Scalar.Registry
import VgiImage.Scalar.ReferenceCrates
import VgiImage.Scalar.RowWise
import VgiImage.Scalar.Arguments
import VgiImage.Scalar.Overflow
import VgiImage.Scalar.Nulls
import VgiImage.Scalar.Distance
import VgiImage.Scalar.ExifKeys
import VgiImage.Imaging.Hemisphere
import VgiImage.Core.Sexagesimal
import VgiImage.Imaging.Dms
import VgiImage.MapEncoding
import VgiImage.Core.Json
import VgiImage.Core.Words
import VgiImage.Meta
import VgiImage.Arrow.Rebatch
import VgiImage.Core.Batches
import VgiImage.Scalar.Reading
import VgiImage.Scalar.Session
import VgiImage.Scalar.Rebatch
import VgiImage.Scalar.Nested
import VgiImage.Scalar.Decoders
import VgiImage.Scalar.Preview
import VgiImage.Imaging.Similarity
import VgiImage.Scalar.Similarity
import VgiImage.Scalar.Metadata
import VgiImage.Scalar.ArgSpecs
import VgiImage.Scalar.Expression
import VgiImage.Scalar.Vectors
import VgiImage.Imaging.Lossless
import VgiImage.Scalar.Lossless
import VgiImage.Scalar.Stripped
import VgiImage.Scalar.Denotation
