import OrbitBuild.Core.Platform
import OrbitBuild.Core.Beacon
import OrbitBuild.Keys.Race
import OrbitBuild.Satellite.Shutdown
import OrbitBuild.MissionControl.Discover
import OrbitBuild.MissionControl.Selected
import OrbitBuild.Satellite.Constellation
import OrbitBuild.MissionControl.Sync
import OrbitBuild.Satellite.Swarm
import OrbitBuild.Tunnel.HalfClose
import OrbitBuild.Tunnel.TailLoss
import OrbitBuild.Bridge.Startup
import OrbitBuild.Bridge.Shutdown
import OrbitBuild.Action.Sockets
import OrbitBuild.Fleet.Table
import OrbitBuild.MissionControl.Advertised
import OrbitBuild.Satellite.Membership
import OrbitBuild.Satellite.Contention
import OrbitBuild.Satellite.Rejoin
import OrbitBuild.Tunnel.Relay
import OrbitBuild.Link.Readiness
import OrbitBuild.Link.Teardown
import OrbitBuild.Link.Spawn
import OrbitBuild.Link.Pipes
import OrbitBuild.Action.Cleanup
import OrbitBuild.Fleet.Sync
import OrbitBuild.Fleet.Timestamp
import OrbitBuild.Host.Confinement
import OrbitBuild.Link.Polling
import OrbitBuild.Command.Logs
import OrbitBuild.Satellite.Heartbeat
import OrbitBuild.MissionControl.Buildx
import OrbitBuild.Tunnel.Rest
import OrbitBuild.Tunnel.PutThrough
import OrbitBuild.Satellite.Service
import OrbitBuild.MissionControl.Delivery
import OrbitBuild.MissionControl.Availability
import OrbitBuild.Fleet.History
import OrbitBuild.MissionControl.BuildxRace
import OrbitBuild.Action.Workflow
