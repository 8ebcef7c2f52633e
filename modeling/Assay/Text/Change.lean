/-!
The changes between two lists of lines: a shortest way to leave lines out and add others, found from both ends at
once, and then moved to where a reader expects it.
-/

namespace Assay.Text

structure Change where
  start : Nat
  removed : Nat
  place : Nat
  added : Nat

namespace Change

abbrev Reach := List (Int × Int)

def Reach.at (reach : Reach) (diagonal standard : Int) : Int := (reach.lookup diagonal).getD standard

structure Pair where
  first : Array (List Char)
  second : Array (List Char)

def Pair.same (pair : Pair) (x y : Int) : Bool := pair.first[x.toNat]? = pair.second[y.toNat]?

structure Area where
  left : Int
  right : Int
  top : Int
  bottom : Int

def slide (pair : Pair) (area : Area) : Nat → Int → Int → Int
  | 0, x, _ => x
  | fuel + 1, x, y =>
    if x < area.right ∧ y < area.bottom ∧ pair.same x y then slide pair area fuel (x + 1) (y + 1) else x

def slideBack (pair : Pair) (area : Area) : Nat → Int → Int → Int
  | 0, x, _ => x
  | fuel + 1, x, y =>
    if area.left < x ∧ area.top < y ∧ pair.same (x - 1) (y - 1) then slideBack pair area fuel (x - 1) (y - 1)
    else x

structure Front where
  low : Int
  high : Int
  reach : Reach

/-- One step of the search from the beginning, diagonal by diagonal; it may meet the other search. -/
def forward (pair : Pair) (area : Area) (meets : Int → Int → Bool) : Nat → Int → Int → Reach →
    Except (Int × Int) Reach
  | 0, _, _, reach => .ok reach
  | fuel + 1, diagonal, low, reach =>
    if diagonal < low then .ok reach
    else
      let below := reach.at (diagonal - 1) (-1)
      let above := reach.at (diagonal + 1) (-1)
      let start := if below < above then above else below + 1
      let x := slide pair area (pair.first.size + 1) start (start - diagonal)
      if meets diagonal x then .error (x, x - diagonal)
      else forward pair area meets fuel (diagonal - 2) low ((diagonal, x) :: reach)

def beyond : Int := 1000000000

def backward (pair : Pair) (area : Area) (meets : Int → Int → Bool) : Nat → Int → Int → Reach →
    Except (Int × Int) Reach
  | 0, _, _, reach => .ok reach
  | fuel + 1, diagonal, low, reach =>
    if diagonal < low then .ok reach
    else
      let below := reach.at (diagonal - 1) beyond
      let above := reach.at (diagonal + 1) beyond
      let start := if below < above then below else above - 1
      let x := slideBack pair area (pair.first.size + 1) start (start - diagonal)
      if meets diagonal x then .error (x, x - diagonal)
      else backward pair area meets fuel (diagonal - 2) low ((diagonal, x) :: reach)

/-- A front after its bounds have moved by one, kept inside the area. -/
def widened (standard least most : Int) (front : Front) : Front :=
  let (low, reach) := if least < front.low then
      (front.low - 1, (front.low - 2, standard) :: front.reach)
    else (front.low + 1, front.reach)
  let (high, wide) := if front.high < most then (front.high + 1, (front.high + 2, standard) :: reach)
    else (front.high - 1, reach)
  { low, high, reach := wide }

/-- A point that some shortest way through an area passes: searches from both ends meet there. -/
def middle (pair : Pair) (area : Area) : Nat → Front → Front → Int × Int
  | 0, _, _ => (area.left, area.top)
  | fuel + 1, ahead, back =>
    let least := area.left - area.bottom
    let most := area.right - area.top
    let odd := ((area.left - area.top) - (area.right - area.bottom)) % 2 ≠ 0
    let grown := widened (-1) least most ahead
    let count := (grown.high - grown.low).toNat + 2
    let meetsBack := fun (diagonal x : Int) =>
      odd && back.low ≤ diagonal && diagonal ≤ back.high && back.reach.at diagonal beyond ≤ x
    match forward pair area meetsBack count grown.high grown.low grown.reach with
    | .error point => point
    | .ok reach =>
      let ahead := { grown with reach }
      let shrunk := widened beyond least most back
      let meetsAhead := fun (diagonal x : Int) =>
        !odd && ahead.low ≤ diagonal && diagonal ≤ ahead.high && x ≤ ahead.reach.at diagonal (-1)
      match backward pair area meetsAhead ((shrunk.high - shrunk.low).toNat + 2) shrunk.high shrunk.low
          shrunk.reach with
      | .error point => point
      | .ok reached => middle pair area fuel ahead { shrunk with reach := reached }

/-- The lines of both texts that have no partner. The number bounds how often areas are divided. -/
def marks (pair : Pair) : Nat → Area → List Nat × List Nat
  | 0, _ => ([], [])
  | fuel + 1, whole =>
    let size := pair.first.size + pair.second.size + 1
    let x := slide pair whole size whole.left whole.top
    let front := { whole with left := x, top := whole.top + (x - whole.left) }
    let stop := slideBack pair front size front.right front.bottom
    let area := { front with right := stop, bottom := front.bottom - (front.right - stop) }
    let numbers := fun (start stop : Int) => (List.range (stop - start).toNat).map fun n => start.toNat + n
    if area.left = area.right then ([], numbers area.top area.bottom)
    else if area.top = area.bottom then (numbers area.left area.right, [])
    else
      let start := area.left - area.top
      let finish := area.right - area.bottom
      let (x, y) := middle pair area size { low := start, high := start, reach := [(start, area.left)] }
        { low := finish, high := finish, reach := [(finish, area.right)] }
      let (firsts, seconds) := marks pair fuel { area with right := x, bottom := y }
      let (more, others) := marks pair fuel { area with left := x, top := y }
      (firsts ++ more, seconds ++ others)

structure Shifting where
  marked : Array Bool
  others : Array Bool

def Shifting.is (marked : Array Bool) (place : Int) : Bool :=
  if place < 0 then false else (marked[place.toNat]?).getD false

def skipMarked (marked : Array Bool) : Nat → Int → Int
  | 0, place => place
  | fuel + 1, place => if Shifting.is marked place then skipMarked marked fuel (place + 1) else place

def skipMarkedBack (marked : Array Bool) : Nat → Int → Int
  | 0, place => place
  | fuel + 1, place => if Shifting.is marked place then skipMarkedBack marked fuel (place - 1) else place

structure Run where
  marked : Array Bool
  start : Int
  stop : Int
  place : Int
  partner : Int

def moveBack (lines : Array (List Char)) (others : Array Bool) : Nat → Run → Run
  | 0, run => run
  | fuel + 1, run =>
    if 0 < run.start ∧ lines[(run.start - 1).toNat]? = lines[(run.stop - 1).toNat]? then
      let marked := (run.marked.set! (run.start - 1).toNat true).set! (run.stop - 1).toNat false
      let start := skipMarkedBack marked lines.size (run.start - 2) + 1
      let place := skipMarkedBack others (others.size + 1) (run.place - 1)
      moveBack lines others fuel { run with marked, start, stop := run.stop - 1, place }
    else run

def moveOn (lines : Array (List Char)) (others : Array Bool) : Nat → Run → Run
  | 0, run => run
  | fuel + 1, run =>
    if run.stop < lines.size ∧ lines[run.start.toNat]? = lines[run.stop.toNat]? then
      let marked := (run.marked.set! run.start.toNat false).set! run.stop.toNat true
      let stop := skipMarked marked lines.size (run.stop + 1)
      let next := run.place + 1
      let place := skipMarked others (others.size + 1) next
      let partner := if next < place then stop else run.partner
      moveOn lines others fuel { run with marked, start := run.start + 1, stop, place, partner }
    else run

def settle (lines : Array (List Char)) (others : Array Bool) : Nat → Run → Run
  | 0, run => run
  | fuel + 1, run =>
    let size := run.stop - run.start
    let back := moveBack lines others (lines.size + 1) run
    let partner := if Shifting.is others (back.place - 1) then back.stop else (lines.size : Int)
    let ahead := moveOn lines others (lines.size + 1) { back with partner }
    if ahead.stop - ahead.start = size then ahead else settle lines others fuel ahead

def moveToPartner (others : Array Bool) : Nat → Run → Run
  | 0, run => run
  | fuel + 1, run =>
    if run.partner < run.stop then
      let marked := (run.marked.set! (run.start - 1).toNat true).set! (run.stop - 1).toNat false
      let place := skipMarkedBack others (others.size + 1) (run.place - 1)
      moveToPartner others fuel { run with marked, start := run.start - 1, stop := run.stop - 1, place }
    else run

def nextRun (marked others : Array Bool) (size : Nat) : Nat → Int → Int → Int × Int
  | 0, here, place => (here, place)
  | fuel + 1, here, place =>
    if here < size ∧ ¬Shifting.is marked here then
      nextRun marked others size fuel (here + 1) (skipMarked others (others.size + 1) place + 1)
    else (here, place)

/-- All runs of one text moved to where they belong: as far on as they can go, together with those of the other
text. -/
def shifted (lines : Array (List Char)) (others : Array Bool) : Nat → Int → Int → Array Bool → Array Bool
  | 0, _, _, marked => marked
  | fuel + 1, here, place, marked =>
    let (start, reached) := nextRun marked others lines.size (lines.size + 1) here place
    if lines.size ≤ start then marked
    else
      let stop := skipMarked marked lines.size (start + 1)
      let beside := skipMarked others (others.size + 1) reached
      let run := moveToPartner others (lines.size + 1)
        (settle lines others (lines.size + 1) { marked, start, stop, place := beside, partner := lines.size })
      shifted lines others fuel run.stop run.place run.marked

def gathered (marked others : Array Bool) : Nat → Nat → Nat → List Change
  | 0, _, _ => []
  | fuel + 1, x, y =>
    if x < marked.size ∨ y < others.size then
      let removed := (skipMarked marked (marked.size + 1) x).toNat - x
      let added := (skipMarked others (others.size + 1) y).toNat - y
      if removed = 0 ∧ added = 0 then gathered marked others fuel (x + 1) (y + 1)
      else { start := x, removed, place := y, added } :: gathered marked others fuel (x + removed) (y + added)
    else []

def between (first second : List (List Char)) : List Change :=
  let pair : Pair := { first := first.toArray, second := second.toArray }
  let size := first.length + second.length + 2
  let known := fun (lines : List (List Char)) (line : List Char) => lines.contains line
  let kept := fun (lines others : List (List Char)) =>
    ((List.range lines.length).zip lines).filter fun item => known others item.2
  let (left, right) := (kept first second, kept second first)
  let inner : Pair := { first := (left.map Prod.snd).toArray, second := (right.map Prod.snd).toArray }
  let (firsts, seconds) := marks inner size
    { left := 0, right := left.length, top := 0, bottom := right.length }
  let unmarked := fun (items : List (Nat × List Char)) (numbers : List Nat) =>
    ((List.range items.length).zip items).filterMap fun (index, item) =>
      if numbers.contains index then none else some item.1
  let arrayOf := fun (count : Nat) (fixed : List Nat) =>
    (Array.range count).map fun index => !fixed.contains index
  let marked := arrayOf first.length (unmarked left firsts)
  let others := arrayOf second.length (unmarked right seconds)
  let one := shifted pair.first others size 0 0 marked
  let two := shifted pair.second one size 0 0 others
  gathered one two size 0 0

end Change

end Assay.Text
