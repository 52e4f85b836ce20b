import ArdopMeshChat.Python.Builtins
import ArdopMeshChat.Python.Value
import ArdopMeshChat.Python.DictIter
import ArdopMeshChat.Config
import ArdopMeshChat.Mesh.Wire
import ArdopMeshChat.Mesh.State
import ArdopMeshChat.Mesh.Node
import ArdopMeshChat.Mesh.Handlers
import ArdopMeshChat.Mesh.Dispatch
import ArdopMeshChat.Mesh.Run
import ArdopMeshChat.Mesh.UnreadState
import ArdopMeshChat.Mesh.RoutingLog
import ArdopMeshChat.Mesh.Network
import ArdopMeshChat.Mesh.Line
import ArdopMeshChat.Mesh.OgmFlood
import ArdopMeshChat.Mesh.FullMesh
import ArdopMeshChat.Mesh.RouteOrigins
import ArdopMeshChat.Mesh.CleanupThread
import ArdopMeshChat.ChatStore
import ArdopMeshChat.Kiss.Backoff
import ArdopMeshChat.Kiss.Client
import ArdopMeshChat.ConfigLoader
import ArdopMeshChat.Station
import ArdopMeshChat.Station.TxEnded
