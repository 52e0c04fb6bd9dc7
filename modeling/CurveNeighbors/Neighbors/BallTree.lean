import CurveNeighbors.Neighbors.Metric
import CurveNeighbors.Selection

/-!
# Ball trees

A ball tree holds points in leaves, and around the points of every subtree a ball
that contains them. A search for the points nearest to another one descends into
the closer ball first and leaves out a ball that lies beyond all that it has found.

Balls are measured in doubles. Where the distance to the centre of a ball exceeds
all doubles and its radius does not, the ball is taken to be infinitely far away and
may be left out although some of its points are not. A point whose own distance
exceeds all doubles is never found: what is found has to be closer than the
infinite distance that a search begins with. Hence the tree is a part of the answer
and not only a way to it. `members_build_perm` says that no point is lost in it.
-/

namespace CurveNeighbors

structure BallMember where
  row : Nat
  point : Point

structure Ball where
  center : Point
  radius : Float

namespace Ball

def mean (dimension : Nat) (members : List BallMember) : Point :=
  let total := members.foldl (fun total member => List.zipWith (· + ·) total member.point)
    (List.replicate dimension 0)
  total.map (· / Float.ofNat members.length)

/-- The ball around the mean of points that reaches to the farthest of them. -/
def around (metric : Metric) (dimension : Nat) (members : List BallMember) : Ball :=
  let center := mean dimension members
  let measure := members.foldl
    (fun largest member => Metric.larger largest (metric.measure center member.point)) 0
  ⟨center, metric.distanceOf measure⟩

/-- The least measure that a point in the ball can have. It is zero inside of the ball, and where
both the distance to the centre and the radius are infinite. -/
def leastMeasure (metric : Metric) (ball : Ball) (query : Point) : Float :=
  metric.measureOf (Metric.larger 0 (metric.between query ball.center - ball.radius))

end Ball

/-- A point that was found: its measure and its row. -/
structure BallFinding where
  measure : Float
  row : Nat

namespace BallFinding

/-- The infinite measure in the first row, which stands for a point that was not found. -/
def missing : BallFinding :=
  ⟨Binary64.ofMagnitudeBits false Binary64.infinityBits, 0⟩

/-- Whether a point is no farther than another and, when both are equally far, has no larger
row. -/
def noFarther (finding other : BallFinding) : Bool :=
  finding.measure < other.measure || (finding.measure == other.measure && finding.row ≤ other.row)

end BallFinding

/-- The nearest points found so far, the nearest first, and how many are asked for. -/
structure BallFindings where
  count : Nat
  found : List BallFinding

namespace BallFindings

/-- The measure that a point has to stay below to be among the nearest. -/
def reach (findings : BallFindings) : Float :=
  if findings.found.length < findings.count then BallFinding.missing.measure
  else (findings.found.getLast?.getD .missing).measure

/-- Takes a point in if it is near enough. The farthest one makes room for it. -/
def insert (findings : BallFindings) (finding : BallFinding) : BallFindings :=
  if finding.measure < findings.reach then
    let (nearer, farther) := findings.found.span (·.noFarther finding)
    { findings with found := (nearer ++ finding :: farther).take findings.count }
  else findings

/-- As many points as are asked for: those that were found, and missing ones behind them. -/
def toList (findings : BallFindings) : List BallFinding :=
  findings.found ++ List.replicate (findings.count - findings.found.length) .missing

end BallFindings

/-- Points in leaves, with a ball around those of every subtree. -/
inductive BallTree where
  | leaf (ball : Ball) (members : List BallMember)
  | split (ball : Ball) (lower upper : BallTree)

namespace BallTree

def ball : BallTree → Ball
  | .leaf ball _ => ball
  | .split ball _ _ => ball

def members : BallTree → List BallMember
  | .leaf _ members => members
  | .split _ lower upper => lower.members ++ upper.members

def coordinate (axis : Nat) (member : BallMember) : Float :=
  member.point.getD axis 0

/-- The difference between the largest and the smallest of the points' coordinates on an axis. -/
def spread (members : List BallMember) (axis : Nat) : Float :=
  match members.map (coordinate axis) with
  | [] => 0
  | first :: rest =>
      rest.foldl Metric.larger first -
        rest.foldl (fun smallest other => if other < smallest then other else smallest) first

/-- The axis on which points are spread most, the first one of several. -/
def widestAxis (dimension : Nat) (members : List BallMember) : Nat :=
  ((List.range dimension).foldl
    (fun (widest : Nat × Float) axis =>
      let width := spread members axis
      if widest.2 < width then (axis, width) else widest)
    (0, 0)).1

/-- Whether a point comes before another on an axis: it has the smaller coordinate or, of the same,
the smaller row. -/
def comesBefore (axis : Nat) (member other : BallMember) : Bool :=
  coordinate axis member < coordinate axis other ||
    (coordinate axis member == coordinate axis other && member.row < other.row)

/-- The tree over points of one dimension whose leaves are `depth` splits away from its root. Every
split halves the points on the axis on which they are spread most. -/
def build (metric : Metric) (dimension : Nat) : Nat → List BallMember → BallTree
  | 0, members => .leaf (.around metric dimension members) members
  | depth + 1, members =>
      if members.length < 2 then .leaf (.around metric dimension members) members
      else
        let middle := members.length / 2
        let halved := Selection.select (comesBefore (widestAxis dimension members)) members middle
        .split (.around metric dimension members)
          (build metric dimension depth (halved.take middle))
          (build metric dimension depth (halved.drop middle))

/-- The number of splits that leave from `leafSize` to twice as many points in a leaf. -/
def depthFor (leafSize size : Nat) : Nat :=
  ((size - 1) / leafSize).log2

def ofPoints (metric : Metric) (dimension leafSize : Nat) (points : List Point) : BallTree :=
  build metric dimension (depthFor leafSize points.length)
    (points.zipIdx.map fun entry => ⟨entry.2, entry.1⟩)

/-- Adds the points of a tree to what was found, unless its ball lies beyond all of that. -/
def search (metric : Metric) (query : Point) : BallTree → BallFindings → BallFindings
  | .leaf ball members, findings =>
      if findings.reach < ball.leastMeasure metric query then findings
      else members.foldl
        (fun findings member => findings.insert ⟨metric.measure query member.point, member.row⟩)
        findings
  | .split ball lower upper, findings =>
      if findings.reach < ball.leastMeasure metric query then findings
      else if lower.ball.leastMeasure metric query ≤ upper.ball.leastMeasure metric query then
        search metric query upper (search metric query lower findings)
      else search metric query lower (search metric query upper findings)

/-- The `count` points nearest to another one. -/
def nearest (metric : Metric) (tree : BallTree) (query : Point) (count : Nat) : List BallFinding :=
  (search metric query tree ⟨count, []⟩).toList

/-- A tree holds the points that it was built from, and no others. -/
theorem members_build_perm (metric : Metric) (dimension depth : Nat) (points : List BallMember) :
    (build metric dimension depth points).members.Perm points := by
  induction depth generalizing points with
  | zero => exact .refl points
  | succ depth ih =>
      rw [build]
      split
      · exact .refl points
      · refine ((ih _).append (ih _)).trans ?_
        rw [List.take_append_drop]
        exact Selection.select_perm ..

end BallTree

end CurveNeighbors
