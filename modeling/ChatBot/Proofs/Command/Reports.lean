-- What the bot reports of itself reads back: every count stands in a line of its own,
-- behind its label, and the list of rooms has a name, an id and a time for each of them.
import Mathlib.Data.List.Forall2
import ChatBot.Proofs.Command.Known
import ChatBot.Proofs.Decimal.Digits

namespace ChatBot

/-! ## Numbers have no ends of lines -/

namespace Decimal

theorem newline_not_mem_digits (n : Nat) : '\n' ∉ digits n :=
  fun h => absurd (isDigit_of_mem_digits h) (by decide)

theorem newline_not_mem_signed (negative : Bool) {ds : List Char} (h : '\n' ∉ ds) :
    '\n' ∉ signed negative ds := by
  cases negative with
  | true => exact List.not_mem_cons_of_ne_of_not_mem (by decide) h
  | false => exact h

theorem newline_not_mem_fixedPlaces (places num den : Nat) :
    '\n' ∉ fixedPlaces places num den := by
  have hpadded : ∀ (zeros n : Nat), '\n' ∉ List.replicate zeros '0' ++ digits n := by
    intro zeros n h
    rcases List.mem_append.1 h with h | h
    · cases List.eq_of_mem_replicate h
    · exact newline_not_mem_digits n h
  unfold fixedPlaces
  dsimp only
  split
  · exact hpadded _ _
  · intro h
    rcases List.mem_append.1 h with h | h
    · exact hpadded _ _ (List.mem_of_mem_take h)
    · rcases List.mem_cons.1 h with h | h
      · cases h
      · exact hpadded _ _ (List.mem_of_mem_drop h)

theorem newline_not_mem_fixed (places : Nat) (b : Binary64) : '\n' ∉ b.fixed places := by
  cases b with
  | nan => exact of_decide_eq_false rfl
  | infinite negative => exact newline_not_mem_signed negative (by decide)
  | finite negative mantissa exponent =>
    exact newline_not_mem_signed negative (newline_not_mem_fixedPlaces _ _ _)

end Decimal

namespace Command

open Chat (RoomId)
open State (Counters RoomInfo RoomTable Snapshot)

theorem newline_not_mem_hoursText (milliseconds : Nat) :
    '\n' ∉ (hoursText milliseconds).toList := by
  unfold hoursText
  rw [String.toList_ofList]
  exact Decimal.newline_not_mem_fixed 1 _

theorem newline_not_mem_durationText (seconds : Nat) :
    '\n' ∉ (durationText seconds).toList := by
  have hdigits := Decimal.newline_not_mem_digits
  unfold durationText
  dsimp only
  split
  · simp [Decimal.text, hdigits]
  · split
    · simp [Decimal.text, hdigits]
    · simp [Decimal.text, hdigits]

/-! ## Lines -/

/-- The lines of a text. -/
def lines (text : String) : List (List Char) := text.toList.splitOn '\n'

theorem lines_eq {text : String} {ls : List (List Char)} (htext : text.toList = ['\n'].intercalate ls)
    (hls : ∀ l ∈ ls, '\n' ∉ l) (hne : ls ≠ []) : lines text = ls := by
  unfold lines
  rw [htext, List.splitOn_intercalate '\n' hls hne]

/-- The line of a label and what belongs to it. -/
def labelled (label : String) (rest : List Char) : List Char :=
  "• ".toList ++ (label.toList ++ (": ".toList ++ rest))

theorem newline_mem_labelled (label : String) (rest : List Char) :
    '\n' ∈ labelled label rest ↔ '\n' ∈ label.toList ∨ '\n' ∈ rest := by
  simp [labelled]

/-! ## Counts -/

/-- A count with its label, if a line has nothing else. -/
def countIn? (line : List Char) : Option (String × Nat) := do
  let entry ← line.dropPrefix? "• ".toList
  let ds ← (entry.dropWhile (· != ':')).dropPrefix? ": ".toList
  if ds ≠ [] ∧ ds.all Char.isDigit then
    some (String.ofList (entry.takeWhile (· != ':')), Decimal.valueOfDigits ds)
  else none

/-- The counts in a text with their labels, line by line. -/
def readCounts (text : String) : List (String × Nat) := (lines text).filterMap countIn?

theorem countIn?_labelled {label : String} (h : ':' ∉ label.toList) (rest : List Char) :
    countIn? (labelled label rest) =
      if rest ≠ [] ∧ rest.all Char.isDigit then some (label, Decimal.valueOfDigits rest)
      else none := by
  have hlabel : ∀ c ∈ label.toList, (c != ':') = true := by
    intro c hc
    exact bne_iff_ne.2 fun hcolon => h (hcolon ▸ hc)
  have hrest : ∀ c, (": ".toList ++ rest).head? = some c → (c != ':') = false := by
    rintro c ⟨⟩
    rfl
  obtain ⟨htake, hdrop⟩ := Text.span_append hlabel hrest
  unfold countIn? labelled
  rw [List.dropPrefix?_append_of_beq _ (beq_self_eq_true _), Option.bind_eq_bind, Option.bind_some,
    htake, hdrop, List.dropPrefix?_append_of_beq _ (beq_self_eq_true _), Option.bind_some,
    String.ofList_toList]

theorem countIn?_count {label : String} (h : ':' ∉ label.toList) (n : Nat) :
    countIn? (labelled label (Decimal.digits n)) = some (label, n) := by
  have hall : (Decimal.digits n).all Char.isDigit = true :=
    List.all_eq_true.2 fun c => Decimal.isDigit_of_mem_digits
  rw [countIn?_labelled h, if_pos ⟨Decimal.digits_ne_nil n, hall⟩, Decimal.valueOfDigits_digits]

/-- What has a unit is not a count. -/
theorem countIn?_of_unit {label : String} (h : ':' ∉ label.toList) {rest : List Char} {c : Char}
    (hc : c ∈ rest) (hunit : c.isDigit = false) : countIn? (labelled label rest) = none := by
  have hnot : ¬ (rest.all Char.isDigit = true) := fun hall => by
    rw [List.all_eq_true.1 hall c hc] at hunit
    cases hunit
  rw [countIn?_labelled h, if_neg fun hall => hnot hall.2]

theorem filterMap_countIn? {counts : List (String × Nat)} (h : ∀ c ∈ counts, ':' ∉ c.1.toList) :
    (counts.map fun c => labelled c.1 (Decimal.digits c.2)).filterMap countIn? = counts := by
  have hread : ∀ c ∈ counts, (countIn? ∘ fun c => labelled c.1 (Decimal.digits c.2)) c = some c :=
    fun c hc => countIn?_count (h c hc) c.2
  rw [List.filterMap_map, List.filterMap_congr hread, List.filterMap_some]

/-! ## The status and the statistics -/

/-- The counts with their labels. -/
def countsOf (sent : String) (c : Counters) : List (String × Nat) :=
  [(sent, c.messagesSent.toNat), ("Commands processed", c.commandsProcessed.toNat),
    ("Rooms joined", c.roomsJoined.toNat)]

def countLines (sent : String) (c : Counters) : List (List Char) :=
  (countsOf sent c).map fun count => labelled count.1 (Decimal.digits count.2)

def statusLines (s : Snapshot) : List (List Char) :=
  ["🤖 **AI Bot Status**".toList, [], "**System Information:**".toList,
    "• Status: Online and ready! ✅".toList,
    labelled "Uptime" ((hoursText s.uptime).toList ++ " hours".toList), [],
    "**Statistics:**".toList] ++ countLines "Messages sent" s.counters ++ [[]]

def statsLines (s : Snapshot) : List (List Char) :=
  ["📊 **Detailed Bot Statistics**".toList, [], "**Activity Metrics:**".toList] ++
    countLines "Total messages sent" s.counters ++
    [[], "**System Metrics:**".toList, labelled "Uptime" (durationText (s.uptime / 1000)).toList, []]

section

-- the texts are about two hundred characters long
set_option maxRecDepth 2000

theorem toList_statusReply (s : Snapshot) :
    (statusReply s).toList = ['\n'].intercalate (statusLines s) := by
  unfold statusReply statusLines countLines countsOf labelled Decimal.text
  simp only [String.toList_append, String.toList_ofList, String.reduceToList, List.map_cons,
    List.map_nil, List.intercalate_cons_cons, List.intercalate_singleton, List.cons_append,
    List.nil_append, List.append_assoc]

theorem toList_statsReply (s : Snapshot) :
    (statsReply s).toList = ['\n'].intercalate (statsLines s) := by
  unfold statsReply statsLines countLines countsOf labelled Decimal.text
  simp only [String.toList_append, String.toList_ofList, String.reduceToList, List.map_cons,
    List.map_nil, List.intercalate_cons_cons, List.intercalate_singleton, List.cons_append,
    List.nil_append, List.append_assoc]

end

theorem lines_statusReply (s : Snapshot) : lines (statusReply s) = statusLines s := by
  refine lines_eq (toList_statusReply s) ?_ (List.cons_ne_nil _ _)
  simp [statusLines, countLines, countsOf, newline_mem_labelled, newline_not_mem_hoursText,
    Decimal.newline_not_mem_digits]

theorem lines_statsReply (s : Snapshot) : lines (statsReply s) = statsLines s := by
  refine lines_eq (toList_statsReply s) ?_ (List.cons_ne_nil _ _)
  simp [statsLines, countLines, countsOf, newline_mem_labelled, newline_not_mem_durationText,
    Decimal.newline_not_mem_digits]

theorem filterMap_countLines {sent : String} (h : ':' ∉ sent.toList) (c : Counters) :
    (countLines sent c).filterMap countIn? = countsOf sent c := by
  apply filterMap_countIn?
  simp [countsOf, h]

/-- A status shows the three counts, and no others. -/
theorem readCounts_statusReply (s : Snapshot) :
    readCounts (statusReply s) = countsOf "Messages sent" s.counters := by
  have huptime : countIn? (labelled "Uptime" ((hoursText s.uptime).toList ++ " hours".toList)) =
      none :=
    countIn?_of_unit (by decide) (List.mem_append_right _ (by decide : 's' ∈ " hours".toList)) rfl
  unfold readCounts
  rw [lines_statusReply, statusLines, List.filterMap_append, List.filterMap_append,
    filterMap_countLines (by decide), List.filterMap_cons_none rfl, List.filterMap_cons_none rfl,
    List.filterMap_cons_none rfl, List.filterMap_cons_none rfl, List.filterMap_cons_none huptime]
  rfl

theorem s_mem_durationText (seconds : Nat) : 's' ∈ (durationText seconds).toList := by
  unfold durationText
  dsimp only
  split
  · simp
  · split
    · simp
    · simp

/-- So do the statistics. -/
theorem readCounts_statsReply (s : Snapshot) :
    readCounts (statsReply s) = countsOf "Total messages sent" s.counters := by
  have huptime : countIn? (labelled "Uptime" (durationText (s.uptime / 1000)).toList) = none :=
    countIn?_of_unit (by decide) (s_mem_durationText _) rfl
  have hmetrics : [[], "**System Metrics:**".toList,
      labelled "Uptime" (durationText (s.uptime / 1000)).toList, []].filterMap countIn? = [] := by
    rw [List.filterMap_cons_none rfl, List.filterMap_cons_none rfl,
      List.filterMap_cons_none huptime]
    rfl
  unfold readCounts
  rw [lines_statsReply, statsLines, List.filterMap_append, List.filterMap_append, hmetrics,
    filterMap_countLines (by decide), List.append_nil]
  rfl

example : readCounts "• Messages sent: 3\n• Uptime: 0.1 hours\n" = [("Messages sent", 3)] := by
  decide

/-! ## Lists of rooms -/

/-- What a list shows of a room. -/
structure ShownRoom where
  name : String
  id : String
  since : String

namespace ShownRoom

/-- The lines of a room. An empty one stands behind them. -/
def lines (r : ShownRoom) : List (List Char) :=
  ["• ".toList ++ r.name.toList, "  ID: ".toList ++ r.id.toList,
    "  Since: ".toList ++ r.since.toList, []]

/-- Nothing in the lines breaks them. -/
structure Unbroken (r : ShownRoom) : Prop where
  name : '\n' ∉ r.name.toList
  id : '\n' ∉ r.id.toList
  since : '\n' ∉ r.since.toList

end ShownRoom

/-- How a room id is shown: whole, or its first 20 characters and dots if there are more. -/
inductive ShownId : RoomId → String → Prop
  | whole {room : RoomId} (h : room.text.toList.length ≤ 20) : ShownId room room.text
  | cut {room : RoomId} {front behind : List Char} (htext : room.text.toList = front ++ behind)
      (hfront : front.length = 20) (hbehind : behind ≠ []) :
      ShownId room (String.ofList front ++ "...")

/-- A row of a table as it is shown. -/
structure Shows (row : RoomId × RoomInfo) (r : ShownRoom) : Prop where
  name : r.name = row.2.name.getD "Unknown Room"
  id : ShownId row.1 r.id
  since : r.since = row.2.firstSeen

/-- The rooms in some lines, four for each, up to the empty one at the end. -/
def roomsIn? : List (List Char) → Option (List ShownRoom)
  | [[]] => some []
  | name :: id :: since :: [] :: more => do
    let name ← name.dropPrefix? "• ".toList
    let id ← id.dropPrefix? "  ID: ".toList
    let since ← since.dropPrefix? "  Since: ".toList
    let rooms ← roomsIn? more
    return ⟨String.ofList name, String.ofList id, String.ofList since⟩ :: rooms
  | _ => none

/-- The rooms in a text, behind its heading. -/
def readRooms (text : String) : Option (List ShownRoom) :=
  match Command.lines text with
  | heading :: [] :: more =>
    if heading = "📋 **Rooms I'm in:**".toList then roomsIn? more else none
  | _ => none

/-- A text that lists the rows of a table, in their order. From its lines the rooms are read back,
if nothing breaks these. -/
structure Lists (rows : List (RoomId × RoomInfo)) (shown : List ShownRoom) (text : String) :
    Prop where
  rows : List.Forall₂ Shows rows shown
  lines : text.toList = ['\n'].intercalate
    ("📋 **Rooms I'm in:**".toList :: [] :: (shown.flatMap ShownRoom.lines ++ [[]]))
  read : (∀ r ∈ shown, r.Unbroken) → readRooms text = some shown

theorem roomsIn?_append (r : ShownRoom) (more : List (List Char)) :
    roomsIn? (r.lines ++ more) = (roomsIn? more).map (r :: ·) := by
  unfold ShownRoom.lines
  simp only [List.cons_append, List.nil_append, roomsIn?, Option.bind_eq_bind, Option.bind_some,
    List.dropPrefix?_append_of_beq _ (beq_self_eq_true _), String.ofList_toList]
  cases roomsIn? more <;> rfl

theorem roomsIn?_lines (shown : List ShownRoom) :
    roomsIn? (shown.flatMap ShownRoom.lines ++ [[]]) = some shown := by
  induction shown with
  | nil => rfl
  | cons r more ih =>
    rw [List.flatMap_cons, List.append_assoc, roomsIn?_append, ih]
    rfl

theorem newline_not_mem_lines {shown : List ShownRoom} (h : ∀ r ∈ shown, r.Unbroken) :
    ∀ l ∈ shown.flatMap ShownRoom.lines ++ [[]], '\n' ∉ l := by
  intro l hl
  rcases List.mem_append.1 hl with hl | hl
  · obtain ⟨r, hr, hl⟩ := List.mem_flatMap.1 hl
    obtain ⟨hname, hid, hsince⟩ := h r hr
    simp only [ShownRoom.lines, List.mem_cons, List.not_mem_nil, or_false] at hl
    rcases hl with rfl | rfl | rfl | rfl
    · simp [hname]
    · simp [hid]
    · simp [hsince]
    · exact List.not_mem_nil
  · obtain rfl := List.mem_singleton.1 hl
    exact List.not_mem_nil

theorem shownId_shownRoomId (room : RoomId) : ShownId room (shownRoomId room) := by
  unfold shownRoomId
  dsimp only
  split
  · rename_i hlong
    refine .cut (List.take_append_drop 20 room.text.toList).symm ?_ ?_
    · exact List.length_take_of_le (Nat.le_of_lt hlong)
    · exact mt List.drop_eq_nil_iff.1 (Nat.not_le_of_lt hlong)
  · rename_i hshort
    have hall : room.text.toList.length ≤ 20 := Nat.le_of_not_lt hshort
    rw [String.append_empty, roomIdLength, List.take_of_length_le hall, String.ofList_toList]
    exact .whole hall

/-- What a list shows of a row. -/
def shownRow (row : RoomId × RoomInfo) : ShownRoom :=
  ⟨row.2.name.getD "Unknown Room", shownRoomId row.1, row.2.firstSeen⟩

theorem toList_roomLines (rows : List (RoomId × RoomInfo)) :
    (String.join (rows.map fun row => roomLines row.1 row.2)).toList =
      ['\n'].intercalate ((rows.map shownRow).flatMap ShownRoom.lines ++ [[]]) := by
  induction rows with
  | nil => rfl
  | cons row more ih =>
    have hne := List.append_ne_nil_of_right_ne_nil ((more.map shownRow).flatMap ShownRoom.lines)
      (List.cons_ne_nil [] [])
    rw [List.map_cons, List.map_cons, List.flatMap_cons, List.append_assoc, String.join_cons,
      String.toList_append, ih]
    simp [roomLines, shownRow, ShownRoom.lines, List.intercalate_cons_of_ne_nil hne]

/-- A table that is not empty is listed, all of it. -/
theorem lists_roomsReply {table : RoomTable} (h : table.rows ≠ []) :
    Lists table.rows (table.rows.map shownRow) (roomsReply table) := by
  have hlines : (roomsReply table).toList = ['\n'].intercalate
      ("📋 **Rooms I'm in:**".toList :: [] ::
        ((table.rows.map shownRow).flatMap ShownRoom.lines ++ [[]])) := by
    have hne := List.append_ne_nil_of_right_ne_nil
      ((table.rows.map shownRow).flatMap ShownRoom.lines) (List.cons_ne_nil [] [])
    rw [roomsReply_eq h, String.toList_append, toList_roomLines,
      List.intercalate_cons_of_ne_nil (List.cons_ne_nil _ _),
      List.intercalate_cons_of_ne_nil hne]
    simp
  refine ⟨?_, hlines, fun hunbroken => ?_⟩
  · rw [List.forall₂_map_right_iff, List.forall₂_same]
    exact fun row _ => ⟨rfl, shownId_shownRoomId row.1, rfl⟩
  · have hread := lines_eq hlines (List.forall_mem_cons.2 ⟨by decide, List.forall_mem_cons.2
      ⟨List.not_mem_nil, newline_not_mem_lines hunbroken⟩⟩) (List.cons_ne_nil _ _)
    unfold readRooms
    rw [hread]
    dsimp only
    rw [if_pos rfl, roomsIn?_lines]

end Command

end ChatBot
