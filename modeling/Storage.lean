import Storage.Context
import Storage.Backend
import Storage.Ambient
import Storage.ErrGroup
import Storage.Shard
import Storage.RedisClient
import Storage.RedisMethod
import Storage.SqlClient
import Storage.Transactor
import Storage.Composite
import Storage.Routing
import Storage.RoundTrip
import Storage.Atomic
import Storage.Refinement
import Storage.EachShard
import Storage.NotFound
import Storage.ConnectShards
import Storage.Arguments
import Storage.Connector
import Storage.Finishing
import Storage.Simulation
