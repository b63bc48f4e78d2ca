-- The counts of the bot and its rooms, against all that has happened to it. They agree
-- in every state, and so does what the bot says of them in its replies.
import ChatBot.Proofs.Chat.Rows
import ChatBot.Proofs.Command.Reports
import ChatBot.Proofs.Loop.History

namespace ChatBot.Loop

open Chat (UserId RoomId Batch Routed)
open Command (sameToken)
open Config (Settings)
open Service (Stop World Script)
open State (BotState Counters Moment Mention Mentioned RoomTable row?)

/-! ## Counting a history -/

/-- Whether a message is a command that the bot knows. -/
def isCommand : Routed → Bool
  | .command c => Command.isKnown c.token
  | .freeText _ => false

/-- Whether a known command had its turn. -/
def Deed.isCommand : Deed → Bool
  | .replied x => Loop.isCommand x.message
  | _ => false

namespace History

/-- How many texts the homeserver took. -/
def taken (h : History) : Nat := h.countP Deed.taken

/-- How many known commands were answered. -/
def commands (h : History) : Nat := h.countP Deed.isCommand

/-- The rooms that were named, each once. -/
def rooms (h : History) : List RoomId := (h.mentions.map Mention.room).dedup

end History

/-- A state that agrees with a history. The counters are 64 bits wide. -/
structure Agrees (clock : Nat → Moment) (h : History) (state : BotState) : Prop where
  /-- All texts that were taken are counted. -/
  messagesSent : state.counters.messagesSent = .ofNat h.taken
  /-- All known commands are counted. -/
  commandsProcessed : state.counters.commandsProcessed = .ofNat h.commands
  /-- All rows of the table are counted. -/
  roomsJoined : state.counters.roomsJoined = .ofNat state.rooms.rows.length
  /-- There is one row for each room that was named. -/
  rooms : state.rooms.rooms.Perm h.rooms
  /-- A row says the first name that was given, and when the room was first named. -/
  rows : ∀ room, state.rooms.find? room = row? clock h.mentions room

/-! ## One deed -/

theorem state_replyTo (m : Routed) (state : BotState) (now : Moment) (draws : Draws) :
    (replyTo m state now draws).2.1 = if isCommand m then state.countCommand else state := by
  cases m with
  | command c => exact Command.dispatch_state c state now draws
  | freeText f => rfl

/-- What a deed does to the counts of texts and commands. -/
structure Deed.Counted (d : Deed) (state state' : BotState) : Prop where
  messagesSent : state'.counters.messagesSent =
    if d.taken then state.counters.messagesSent + 1 else state.counters.messagesSent
  commandsProcessed : state'.counters.commandsProcessed =
    if d.isCommand then state.counters.commandsProcessed + 1
    else state.counters.commandsProcessed

/-- Rooms are counted apart. -/
theorem counted_of_sameButRooms {d : Deed} {state state' : BotState}
    (h : State.SameButRooms state state') (htaken : d.taken = false)
    (hcommand : d.isCommand = false) : d.Counted state state' := by
  refine ⟨?_, ?_⟩
  · rw [htaken, h.messagesSent]
    rfl
  · rw [hcommand, h.commandsProcessed]
    rfl

theorem counted_sent (state : BotState) (room : RoomId) (body : String) (taken : Bool) :
    (Deed.sent room body taken).Counted state (state.afterSend taken) := by
  cases taken with
  | true => exact ⟨rfl, rfl⟩
  | false => exact ⟨rfl, rfl⟩

/-- A command is counted before its reply is sent. -/
theorem counted_replied (state : BotState) (x : Turn) (now : Moment) (draws : Draws) :
    (Deed.replied x).Counted state ((replyTo x.message state now draws).2.1.afterSend x.taken) := by
  rw [state_replyTo]
  split
  · rename_i hcommand
    have hsent := counted_sent state.countCommand x.message.room x.reply x.taken
    exact ⟨hsent.messagesSent, hsent.commandsProcessed.trans (if_pos hcommand).symm⟩
  · rename_i hother
    have hsent := counted_sent state x.message.room x.reply x.taken
    exact ⟨hsent.messagesSent, hsent.commandsProcessed.trans (if_neg hother).symm⟩

variable {clock : Nat → Moment} {own : UserId} {startedAt : Int} {h : History} {state : BotState}

/-- Texts and commands of a history are all counted. -/
structure History.Counted (h : History) (state : BotState) : Prop where
  messagesSent : state.counters.messagesSent = .ofNat h.taken
  commandsProcessed : state.counters.commandsProcessed = .ofNat h.commands

theorem History.Counted.step {d : Deed} {state' : BotState} (hs : h.Counted state)
    (hd : d.Counted state state') : History.Counted (h ++ [d]) state' := by
  constructor
  · unfold History.taken
    rw [hd.messagesSent, hs.messagesSent, State.countP_concat, State.ofNat_add_one_if]
    rfl
  · unfold History.commands
    rw [hd.commandsProcessed, hs.commandsProcessed, State.countP_concat, State.ofNat_add_one_if]
    rfl

theorem Tells.counted (htells : Tells clock own startedAt h state) : h.Counted state := by
  induction htells with
  | start => exact ⟨rfl, rfl⟩
  | got _ b time ih =>
    exact ih.step (counted_of_sameButRooms (State.sameButRooms_noteAll _ _ _) rfl rfl)
  | replied _ _ _ _ ih => exact ih.step (counted_replied _ _ _ _)
  | noted _ m ih =>
    exact ih.step (counted_of_sameButRooms (State.sameButRooms_noteRoom _ _ _ _) rfl rfl)
  | sent _ room body taken ih => exact ih.step (counted_sent _ room body taken)

theorem Mentioned.afterSend {ms : List Mention} (hs : Mentioned clock ms state) (taken : Bool) :
    Mentioned clock ms (state.afterSend taken) := by
  cases taken with
  | true => exact ⟨hs.row, hs.count⟩
  | false => exact hs

theorem Mentioned.replyTo {ms : List Mention} (hs : Mentioned clock ms state) (m : Routed)
    (now : Moment) (draws : Draws) : Mentioned clock ms (replyTo m state now draws).2.1 := by
  rw [state_replyTo]
  split
  · exact ⟨hs.row, hs.count⟩
  · exact hs

/-- Only batches and notes name rooms. -/
theorem Tells.mentioned (htells : Tells clock own startedAt h state) :
    Mentioned clock h.mentions state := by
  induction htells with
  | start => exact .fresh clock _
  | got _ b time ih =>
    rw [History.mentions_append]
    simpa [History.mentions, Deed.mentions] using ih.noteAll b.joined.rooms time
  | @replied h state _ x draws b time _ _ _ ih =>
    have hsame : History.mentions (h ++ [.replied x]) = h.mentions := by
      rw [History.mentions_append]
      exact List.append_nil _
    rw [hsame]
    exact Mentioned.afterSend (Mentioned.replyTo ih x.message (clock x.time) draws) x.taken
  | noted _ m ih =>
    rw [History.mentions_append]
    exact ih.noteRoom m
  | @sent h state _ room body taken ih =>
    have hsame : History.mentions (h ++ [.sent room body taken]) = h.mentions := by
      rw [History.mentions_append]
      exact List.append_nil _
    rw [hsame]
    exact Mentioned.afterSend ih taken

theorem Tells.agrees (htells : Tells clock own startedAt h state) : Agrees clock h state where
  messagesSent := htells.counted.messagesSent
  commandsProcessed := htells.counted.commandsProcessed
  roomsJoined := htells.mentioned.count
  rooms := htells.mentioned.rooms
  rows := htells.mentioned.row

/-! ## What replies say of it -/

/-- The counters that a reply shows: the texts taken before it, the commands with its own one, and
the rooms with those of its own batch. -/
def shownCounters (before : History) : Counters :=
  ⟨.ofNat before.taken, .ofNat (before.commands + 1), .ofNat before.rooms.length⟩

/-- The same as they are read from a reply. -/
def shownCounts (sent : String) (before : History) : List (String × Nat) :=
  [(sent, before.taken % UInt64.size),
    ("Commands processed", (before.commands + 1) % UInt64.size),
    ("Rooms joined", before.rooms.length % UInt64.size)]

theorem countsOf_shownCounters (sent : String) (before : History) :
    Command.countsOf sent (shownCounters before) = shownCounts sent before := by
  unfold Command.countsOf shownCounters shownCounts
  dsimp only
  rw [UInt64.toNat_ofNat', UInt64.toNat_ofNat', UInt64.toNat_ofNat']

/-- The table as it is when something has happened, and what a reply shows of it. -/
structure Listed (clock : Nat → Moment) (before : History) (table : RoomTable)
    (shown : List Command.ShownRoom) (reply : String) : Prop where
  rows : ∀ room, table.find? room = row? clock before.mentions room
  order : table.rows.Pairwise fun row row' =>
    Text.utf8Bytes row.1.text.toList < Text.utf8Bytes row'.1.text.toList
  lists : Command.Lists table.rows shown reply

/-- A reply against what happened before it, the batch of its message included. -/
structure Reported (clock : Nat → Moment) (own : UserId) (startedAt : Int) (before : History)
    (x : Turn) : Prop where
  batch : ∃ b time, .got b time ∈ before ∧ x.message ∈ Chat.route b own
  /-- The counts are read back from a status. -/
  status : ∀ c, x.message = .command c → sameToken "!status" c.token = true →
    Command.readCounts x.reply = shownCounts "Messages sent" before ∧
      x.reply = Command.statusReply
        ⟨shownCounters before, ((clock x.time).instant - startedAt).toNat⟩
  /-- So they are from statistics. -/
  stats : ∀ c, x.message = .command c → sameToken "!stats" c.token = true →
    Command.readCounts x.reply = shownCounts "Total messages sent" before ∧
      x.reply = Command.statsReply
        ⟨shownCounters before, ((clock x.time).instant - startedAt).toNat⟩
  /-- All rows of the table at that moment are listed, by rising room id. -/
  rooms : ∀ c, x.message = .command c → sameToken "!rooms" c.token = true →
    ∃ table shown, Listed clock before table shown x.reply

variable {before : History} {x : Turn} {draws : Draws}

/-- The counters that a command finds when it is answered are those that a reply shows. -/
theorem snapshotAt_countCommand (htells : Tells clock own startedAt before state) (instant : Int) :
    state.countCommand.snapshotAt instant =
      ⟨shownCounters before, (instant - startedAt).toNat⟩ := by
  have hagrees := htells.agrees
  unfold BotState.snapshotAt BotState.countCommand shownCounters
  dsimp only
  rw [hagrees.messagesSent, hagrees.commandsProcessed, hagrees.roomsJoined,
    ← Chat.ByRoom.length_rooms, hagrees.rooms.length_eq, htells.startedAt_eq, UInt64.ofNat_add]
  rfl

/-- The room of a message is known when the message is answered. -/
theorem MadeFrom.room_known (hmade : MadeFrom clock own startedAt before x state draws) :
    x.message.room ∈ state.rooms.rooms := by
  obtain ⟨b, time, hgot, hmessage⟩ := hmade.message
  have hroom := Chat.room_mem_of_mem_route hmessage
  have hmention : (⟨x.message.room, none, time⟩ : Mention) ∈ before.mentions :=
    List.mem_flatMap.2 ⟨.got b time, hgot, List.mem_map.2 ⟨_, hroom, rfl⟩⟩
  rw [hmade.tells.agrees.rooms.mem_iff]
  exact List.mem_dedup.2 (List.mem_map.2 ⟨_, hmention, rfl⟩)

theorem MadeFrom.reported (hmade : MadeFrom clock own startedAt before x state draws) :
    Reported clock own startedAt before x := by
  have hreply : ∀ c spec, x.message = .command c → Command.lookup c.token = some spec →
      x.reply = (Command.reply spec.kind c.args c.sender state.countCommand (clock x.time)
        draws).1 := by
    intro c spec hmessage hspec
    rw [hmade.reply, hmessage]
    exact Command.dispatch_reply hspec state (clock x.time) draws
  have hsnapshot := snapshotAt_countCommand hmade.tells (clock x.time).instant
  refine ⟨hmade.message, ?_, ?_, ?_⟩
  · intro c hmessage htoken
    have hstatus : x.reply =
        Command.statusReply (state.countCommand.snapshotAt (clock x.time).instant) :=
      hreply c _ hmessage (Command.lookup_eq_of_sameToken htoken)
    rw [hsnapshot] at hstatus
    refine ⟨?_, hstatus⟩
    rw [hstatus, Command.readCounts_statusReply, countsOf_shownCounters]
  · intro c hmessage htoken
    have hstats : x.reply =
        Command.statsReply (state.countCommand.snapshotAt (clock x.time).instant) :=
      hreply c _ hmessage (Command.lookup_eq_of_sameToken htoken)
    rw [hsnapshot] at hstats
    refine ⟨?_, hstats⟩
    rw [hstats, Command.readCounts_statsReply, countsOf_shownCounters]
  · intro c hmessage htoken
    have hrows : state.rooms.rows ≠ [] := by
      intro hnil
      have hroom := hmade.room_known
      unfold Chat.ByRoom.rooms at hroom
      rw [hnil] at hroom
      cases hroom
    have hrooms : x.reply = Command.roomsReply state.rooms :=
      hreply c _ hmessage (Command.lookup_eq_of_sameToken htoken)
    exact ⟨state.rooms, _, hmade.tells.agrees.rows, state.rooms.pairwise_utf8Bytes,
      hrooms ▸ Command.lists_roomsReply hrows⟩

/-! ## The law of the counts -/

variable {σ : Type}

/-- In every state that a bot reaches from its start, its counts and its rooms agree with what has
happened, and every reply says of them what they were in its turn. A room never leaves the table,
and a name never changes. -/
theorem the_counts_agree_with_what_happened (set : Setting σ) (settings : Settings)
    (draws : Draws) (server : σ) (stop : Stop) (s : Scene σ) (steps : List (Step σ))
    (hstart : (start set settings draws (.start server stop)).1 = .ok s) :
    let h := startDeeds set settings draws (.start server stop) ++ s.deeds set steps
    let t := s.after set steps
    Chronicle set s.bot.session.userId s.bot.state.startedAt (s.answers set steps) h t ∧
      Agrees set.clock h t.bot.state ∧
      (∀ before x after, h = before ++ .replied x :: after →
        Reported set.clock s.bot.session.userId s.bot.state.startedAt before x) ∧
      ∀ more room info, t.bot.state.rooms.find? room = some info →
        ∃ name, (t.after set more).bot.state.rooms.find? room =
          some { info with name := info.name.or name } := by
  intro h t
  have hchronicle : Chronicle set s.bot.session.userId s.bot.state.startedAt (s.answers set steps)
      h t := (chronicle_start rfl hstart).after steps
  refine ⟨hchronicle, hchronicle.tells.agrees, ?_, ?_⟩
  · intro before x after hsplit
    obtain ⟨state, draws, hmade⟩ := hchronicle.tells.madeFrom hsplit
    exact hmade.reported
  · intro more room info hroom
    rw [hchronicle.tells.agrees.rows] at hroom
    rw [(hchronicle.after more).tells.agrees.rows, History.mentions_append]
    exact State.row?_append hroom _

/-- A batch, a room that is noted twice and a text, over the script with a fault. -/
def notesBetweenBatches : List (Step Script) :=
  [.poll, .noteRoom ⟨"!c:hs"⟩ none, .noteRoom ⟨"!c:hs"⟩ (some "Den"), .send ⟨"!c:hs"⟩ "Hello",
    .run .never 2]

theorem the_counts_agree_with_notes_between_batches :
    ∃ s, (start mixedSetting demoSettings (.ofList []) (.start batchFaultBatch .never)).1 = .ok s ∧
      let h := startDeeds mixedSetting demoSettings (.ofList []) (.start batchFaultBatch .never) ++
        s.deeds mixedSetting notesBetweenBatches
      let t := s.after mixedSetting notesBetweenBatches
      Chronicle mixedSetting s.bot.session.userId s.bot.state.startedAt
          (s.answers mixedSetting notesBetweenBatches) h t ∧
        Agrees mixedSetting.clock h t.bot.state ∧
        (∀ before x after, h = before ++ .replied x :: after →
          Reported mixedSetting.clock s.bot.session.userId s.bot.state.startedAt before x) ∧
        ∀ more room info, t.bot.state.rooms.find? room = some info →
          ∃ name, (t.after mixedSetting more).bot.state.rooms.find? room =
            some { info with name := info.name.or name } :=
  ⟨_, rfl, the_counts_agree_with_what_happened mixedSetting demoSettings (.ofList [])
    batchFaultBatch .never _ notesBetweenBatches rfl⟩

end ChatBot.Loop
