import ArchiveCensus.Text.Order
import ArchiveCensus.Index.Client

/-!
# Index/Status — how the index is doing

The status of the index is put together from three answers: its greeting, which is timed, the health
of the cluster, and the figures of its nodes.
-/

namespace ArchiveCensus

/-- How the index is doing. -/
structure IndexStatus where
  pingMs : Int
  version : String
  clusterName : String
  clusterStatus : String
  nodes : Int
  dataNodes : Int
  activeShards : Int
  unassignedShards : Int
  pendingTasks : Int
  /-- The uptime of the node that has been up longest. -/
  uptimeSeconds : Int
  nodeNames : List String

namespace IndexStatus

variable {σ : Type}

/-- The entries of the nodes that are maps. -/
def nodeMaps (nodes : Json) : List Json :=
  ((nodes.get "nodes").entries.map Prod.snd).filter fun
    | .obj _ => true
    | _ => false

/-- The names of the nodes that have one, in order. -/
def namesOf (nodes : Json) : List String :=
  Text.sortTexts (((nodeMaps nodes).map fun node => (node.get "name").label).filter (!·.isEmpty))

/-- The milliseconds that the node has been up which has been up longest. -/
def uptimeMs (nodes : Json) : Int :=
  ((nodeMaps nodes).map fun node => (node.follow ["jvm", "uptime_in_millis"]).wholeMeasure).foldl
    max 0

/-- The whole milliseconds between two times. -/
def milliseconds (started ended : Binary64) : Except Defect Int :=
  ((ended.sub started).mul (.ofInt 1000)).truncate.mapError Defect.ofNoWholePart

/-- The status that the three answers make. -/
def ofAnswers (pingMs : Int) (greeting health nodes : Json) : IndexStatus :=
  { pingMs := pingMs
    version := (greeting.follow ["version", "number"]).label
    clusterName := (health.get "cluster_name").label
    clusterStatus := (health.get "status").label
    nodes := (health.get "number_of_nodes").wholeMeasure
    dataNodes := (health.get "number_of_data_nodes").wholeMeasure
    activeShards := (health.get "active_shards").wholeMeasure
    unassignedShards := (health.get "unassigned_shards").wholeMeasure
    pendingTasks := (health.get "number_of_pending_tasks").wholeMeasure
    uptimeSeconds := uptimeMs nodes / 1000
    nodeNames := namesOf nodes }

/-- Asks the index how it is doing. -/
def ask [Responder σ] (c : Client) : Call σ IndexStatus := do
  let started ← Call.now
  let greeting ← c.request "/" none none
  let pingMs ← Call.ofDefect (milliseconds started (← Call.now))
  let health ← c.request "/_cluster/health" none none
  let nodes ← c.request "/_nodes/stats/jvm" none none
  return ofAnswers pingMs greeting health nodes

/-- The status as a document. -/
def toJson (s : IndexStatus) : Json :=
  .obj [
    ("ping_ms", .int s.pingMs),
    ("version", .str s.version),
    ("cluster_name", .str s.clusterName),
    ("cluster_status", .str s.clusterStatus),
    ("node_count", .int s.nodes),
    ("data_node_count", .int s.dataNodes),
    ("active_shards", .int s.activeShards),
    ("unassigned_shards", .int s.unassignedShards),
    ("pending_tasks", .int s.pendingTasks),
    ("node_uptime_seconds", .int s.uptimeSeconds),
    ("node_names", .texts s.nodeNames)]

end IndexStatus

end ArchiveCensus
