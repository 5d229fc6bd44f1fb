import Sleuthgraph.Graph.CypherMap
import Mathlib.Data.List.Basic

/-!
# The AGE graph

A property graph and the four Cypher statements the code sends it. `MATCH (v {id: ...})` has no
label, so it finds every vertex of that id; `MERGE` finds by label and id and creates what it
does not find; a `MATCH` of both endpoints binds every pair of matching vertices, and none when
one endpoint is missing.
-/

namespace Sleuthgraph

/-- What `MERGE` finds a vertex by. -/
structure VertexKey where
  label : String
  id : UUID
deriving DecidableEq, Repr

structure Vertex where
  key : VertexKey
  props : PyDict
deriving DecidableEq, Repr

/-- What `MERGE` finds an edge by: label and id, between the two vertices it has bound. -/
structure EdgeKey where
  label : String
  id : UUID
  src : VertexKey
  dst : VertexKey
deriving DecidableEq, Repr

structure Edge where
  key : EdgeKey
  props : PyDict
deriving DecidableEq, Repr

structure Graph where
  vertices : List Vertex
  edges : List Edge
deriving DecidableEq, Repr

namespace Graph

def empty : Graph := ⟨[], []⟩

instance : Inhabited Graph := ⟨empty⟩

def vertexKeys (g : Graph) : List VertexKey := g.vertices.map Vertex.key

def edgeKeys (g : Graph) : List EdgeKey := g.edges.map Edge.key

/-- The vertices `MATCH (v {id: ...})` binds. -/
def matching (g : Graph) (id : UUID) : List VertexKey := g.vertexKeys.filter fun k => k.id = id

/-- `MERGE (v:label {id: ...}) SET v = props` -/
def mergeVertex (g : Graph) (key : VertexKey) (props : PyDict) : Graph :=
  if g.vertices.any fun v => v.key = key then
    { g with vertices := g.vertices.map fun v => if v.key = key then ⟨key, props⟩ else v }
  else { g with vertices := g.vertices ++ [⟨key, props⟩] }

/-- `MATCH (v {id: ...}) DETACH DELETE v` -/
def detachDelete (g : Graph) (id : UUID) : Graph :=
  { vertices := g.vertices.filter fun v => v.key.id ≠ id
    edges := g.edges.filter fun e => e.key.src.id ≠ id ∧ e.key.dst.id ≠ id }

/-- `MERGE (s)-[r:label {id: ...}]->(d) SET r = props` for one bound pair. -/
def mergeEdgeAt (g : Graph) (key : EdgeKey) (props : PyDict) : Graph :=
  if g.edges.any fun e => e.key = key then
    { g with edges := g.edges.map fun e => if e.key = key then ⟨key, props⟩ else e }
  else { g with edges := g.edges ++ [⟨key, props⟩] }

/-- The keys of the edges a `MERGE` is about, one for each pair of bound endpoints. -/
def boundEdges (g : Graph) (label : String) (id src dst : UUID) : List EdgeKey :=
  (g.matching src).flatMap fun s => (g.matching dst).map fun d => ⟨label, id, s, d⟩

/-- `MATCH (s {id: src}), (d {id: dst}) MERGE (s)-[r:label {id: ...}]->(d) SET r = props` -/
def mergeEdge (g : Graph) (label : String) (id src dst : UUID) (props : PyDict) : Graph :=
  (g.boundEdges label id src dst).foldl (fun g key => g.mergeEdgeAt key props) g

/-- `MATCH ()-[r {id: ...}]->() DELETE r` -/
def deleteEdge (g : Graph) (id : UUID) : Graph :=
  { g with edges := g.edges.filter fun e => e.key.id ≠ id }

end Graph

/-- The Cypher statements of the code. -/
inductive Cypher where
  | mergeVertex (key : VertexKey) (props : PyDict)
  | detachDelete (id : UUID)
  | mergeEdge (label : String) (id src dst : UUID) (props : PyDict)
  | deleteEdge (id : UUID)
deriving DecidableEq, Repr

/-- Run one statement. -/
def Cypher.run (g : Graph) : Cypher → Graph
  | .mergeVertex key props => g.mergeVertex key props
  | .detachDelete id => g.detachDelete id
  | .mergeEdge label id src dst props => g.mergeEdge label id src dst props
  | .deleteEdge id => g.deleteEdge id

end Sleuthgraph
