import Coro.Core.Buffer
import Coro.Core.BufferRun
import Coro.Core.BufferSplit
import Coro.Core.Node
import Coro.Core.Pipeline
import Coro.Audio.AudioTypes
import Coro.Audio.AudioCaps
import Coro.Audio.Sample
import Coro.Audio.AudioConverter
import Coro.Audio.AlsaSink
import Coro.Audio.AlsaSinkRun
import Coro.Audio.AlsaSinkHandles
import Coro.Audio.AlsaSinkWrite
import Coro.Dsp.BiQuad
import Coro.Dsp.Response
import Coro.Passthrough.ChannelMap
import Coro.Passthrough.ChannelLayout
import Coro.Passthrough.AddPackets
import Coro.Passthrough.InitializeHW
import Coro.Passthrough.OpenDevice
import Coro.Passthrough.EnumerateDevice
import Coro.Passthrough.EnumerateDevices
import Coro.Passthrough.Init
