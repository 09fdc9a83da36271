import Brickd.Buffer
import Brickd.Pearson
import Brickd.Slave
import Brickd.Transceive
import Brickd.Codec
import Brickd.Engine
import Brickd.Targeting
import Brickd.Fifo
import Brickd.Handoff
import Brickd.Shutdown
import Brickd.Discovery
import Brickd.Rs485Config
import Brickd.ExtensionInit
import Brickd.RoundRobin
import Brickd.Dispatch
import Brickd.SetupBound
import Brickd.Routing
import Brickd.ExtensionExit
import Brickd.Progress
import Brickd.Drain
import Brickd.MemorySafety
