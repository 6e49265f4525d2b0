import LineShell.Decimal.Binary
import LineShell.Text.Wrap

namespace LineShell.Text

structure Column where
  title : String
  left : Nat
  right : Nat
  oneLine : Bool

namespace Grid

def widest (s : List Char) : Nat :=
  go [] s
where
  go (line : List Char) : List Char → Nat
    | [] => cellWidth line.reverse
    | c :: rest =>
      if isLineEnd c then max (cellWidth line.reverse) (go [] rest) else go (c :: line) rest

def wanted (column : Column) (cells : List (List Char)) : Nat :=
  (cells.map widest).foldl max 0 + column.left + column.right

def reduce (limits : List Nat) : Nat → List Bool → List Nat → List Nat
  | total, share :: shares, v :: vs =>
    let limit := limits.headD 0
    let takers := ((share :: shares).filter id).length
    if share && limit != 0 then
      let part := min limit (Decimal.roundHalfEven total takers)
      (v - part) :: reduce (limits.drop 1) (total - part) shares vs
    else v :: reduce (limits.drop 1) total shares vs
  | _, _, vs => vs

def fullWidth (widths : List Nat) : Nat :=
  widths.foldl (· + ·) 0

def collapse (room : Nat) (wraps : List Bool) : Nat → List Nat → List Nat
  | 0, widths => widths
  | fuel + 1, widths =>
    let excess := fullWidth widths - room
    if excess = 0 then widths
    else
      let free := (widths.zip wraps).map fun (w, b) => if b then w else 0
      let top := free.foldl max 0
      let second := (free.filter (· != top)).foldl max 0
      if top = second then widths
      else
        let shares := (widths.zip wraps).map fun (w, b) => b && w == top
        let limit := min excess (top - second)
        collapse room wraps fuel (reduce (widths.map fun _ => limit) excess shares widths)

def fit (room : Nat) (columns : List Column) (widths : List Nat) : List Nat :=
  if fullWidth widths ≤ room then widths
  else
    let narrowed := collapse room (columns.map fun c => !c.oneLine) (fullWidth widths + 1) widths
    if fullWidth narrowed ≤ room then narrowed
    else reduce narrowed (fullWidth narrowed - room) (narrowed.map fun _ => true) narrowed

def fill (width : Nat) (line : List Char) : List Char :=
  line ++ List.replicate (width - cellWidth line) ' '

def cellLines (column : Column) (width : Nat) (cell : List Char) : List (List Char) :=
  let room := width - column.left - column.right
  let lines :=
    if room = 0 then []
    else if column.oneLine then
      (linesOf cell).map fun l => truncate room .ellipsis (expandTabs l)
    else wrap room .ellipsis cell
  lines.map fun l =>
    List.replicate column.left ' ' ++ fill room (fill room l) ++ List.replicate column.right ' '

def row (border : Char) (columns : List Column) (widths : List Nat) (cells : List (List Char)) :
    List (List Char) :=
  let blocks := ((columns.zip widths).zip cells).map fun ((c, w), cell) => (w, cellLines c w cell)
  let height := (blocks.map fun b => b.2.length).foldl max 1
  (List.range height).map fun n =>
    let parts := blocks.map fun (w, lines) => lines[n]?.getD (List.replicate w ' ')
    border :: [border].intercalate parts ++ [border]

def rule (left line joint right : Char) (widths : List Nat) : List Char :=
  left :: [joint].intercalate (widths.map fun w => List.replicate w line) ++ [right]

def lines (width : Nat) (columns : List Column) (rows : List (List (List Char))) :
    List (List Char) :=
  let titles := columns.map fun c => c.title.toList
  let column (n : Nat) := (titles :: rows).map fun r => r[n]?.getD []
  let room := width - columns.length - 1
  let asked := columns.mapIdx fun n c => min room (wanted c (column n))
  let widths := fit room columns asked
  rule '┏' '━' '┳' '┓' widths :: row '┃' columns widths titles
    ++ rule '┡' '━' '╇' '┩' widths :: rows.flatMap (row '│' columns widths)
    ++ [rule '└' '─' '┴' '┘' widths]

end Grid

end LineShell.Text
