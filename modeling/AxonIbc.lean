import AxonIbc.Ibc.Identifier
import AxonIbc.Ibc.Path
import AxonIbc.Host.Adapter
import AxonIbc.Host.Context
import AxonIbc.Host.Channel
import AxonIbc.Grpc.Query
import AxonIbc.Grpc.Packets
import AxonIbc.Grpc.CreateClient
import AxonIbc.Grpc.Faults
import AxonIbc.Grpc.Listing
import AxonIbc.Grpc.Concurrent
import AxonIbc.Grpc.Serial
import AxonIbc.Grpc.HostRun
import AxonIbc.Grpc.Interleaved
