import RedisAnet.Kernel.Types
import RedisAnet.Kernel.Syscalls
import RedisAnet.Kernel.Footprints
import RedisAnet.Kernel.Resources
import RedisAnet.Anet.Options
import RedisAnet.Anet.OptionEffects
import RedisAnet.Anet.Connect
import RedisAnet.Anet.Server
import RedisAnet.Anet.Accept
import RedisAnet.Anet.Sockets
import RedisAnet.Anet.Address
import RedisAnet.Anet.Errors
import RedisAnet.Anet.Frames
import RedisAnet.Anet.Resolved
import RedisAnet.Client
