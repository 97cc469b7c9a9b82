import EntitySearch.Cluster.Message

/-!
# Cluster membership

The nodes of a cluster share a table of members and a table of project owners.
For each member the table says which handler takes its tasks, whether it can be
reached, and by how much deliveries to it are delayed.
-/

namespace EntitySearch

/-- What the cluster knows about a member. -/
structure NodeSlot (Handler : Type) where
  handler : Option Handler
  reachable : Bool
  delay : Option Nat

/-- The members of a cluster and the owners of projects. -/
structure Cluster (Handler : Type) where
  nodes : Table NodeAddress (NodeSlot Handler)
  owners : Table ProjectId NodeAddress
  defaultOwner : Option NodeAddress

namespace Cluster

variable {Handler : Type}

def empty : Cluster Handler := ⟨Table.empty, Table.empty, none⟩

/-- What is known about a member that has just joined. -/
def newSlot : NodeSlot Handler := ⟨none, true, none⟩

def join (cluster : Cluster Handler) (node : NodeAddress) : Cluster Handler :=
  { cluster with nodes := cluster.nodes.alter node (·.getD newSlot) }

/-- The cluster of one node that owns every project. -/
def standalone (node : NodeAddress) : Cluster Handler :=
  { (empty : Cluster Handler).join node with defaultOwner := some node }

def leave (cluster : Cluster Handler) (node : NodeAddress) : Cluster Handler :=
  { cluster with nodes := cluster.nodes.erase node }

/-- Routes the tasks for a node to a handler; an unknown node becomes a member. -/
def attach (cluster : Cluster Handler) (node : NodeAddress) (handler : Handler) :
    Cluster Handler :=
  { cluster with
    nodes := cluster.nodes.alter node fun slot =>
      { slot.getD newSlot with handler := some handler } }

def setReachable (cluster : Cluster Handler) (node : NodeAddress) (reachable : Bool) :
    Cluster Handler :=
  { cluster with nodes := cluster.nodes.modify node ({ · with reachable := reachable }) }

/-- Sets the delay of deliveries to a member, in milliseconds. -/
def setDelay (cluster : Cluster Handler) (node : NodeAddress) (delay : Option Nat) :
    Cluster Handler :=
  { cluster with nodes := cluster.nodes.modify node ({ · with delay := delay }) }

def assign (cluster : Cluster Handler) (project : ProjectId) (node : NodeAddress) :
    Cluster Handler :=
  { cluster with owners := cluster.owners.set project node }

/-- Leaves a project to the default owner. -/
def unassign (cluster : Cluster Handler) (project : ProjectId) : Cluster Handler :=
  { cluster with owners := cluster.owners.erase project }

/-- Sets the owner of every project that is not assigned. -/
def setDefaultOwner (cluster : Cluster Handler) (node : Option NodeAddress) :
    Cluster Handler :=
  { cluster with defaultOwner := node }

/-- The members in ascending order. -/
def members (cluster : Cluster Handler) : List NodeAddress :=
  cluster.nodes.keys

def ownerOf (cluster : Cluster Handler) (project : ProjectId) : Option NodeAddress :=
  (cluster.owners.get? project).or cluster.defaultOwner

end Cluster

end EntitySearch
