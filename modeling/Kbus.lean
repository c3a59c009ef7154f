import Kbus.Bytes
import Kbus.Layout
import Kbus.MessageId
import Kbus.Hexdata
import Kbus.Frame
import Kbus.Message
import Kbus.Padding
import Kbus.Fields
import Kbus.Reachable
import Kbus.Codec
import Kbus.Merge
import Kbus.Stateful
import Kbus.ClassKey
import Kbus.PointyDecode
import Kbus.Mutators
import Kbus.Equality
import Kbus.Protocol
import Kbus.Bindings
