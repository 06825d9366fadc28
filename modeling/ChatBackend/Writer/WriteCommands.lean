import ChatBackend.Storage.Schema

/-!
# Message write commands

A `MessageWriteCommand` is what the realtime service puts on the queue.  The
writer first removes duplicates inside a batch: commands are looked up by the
string `senderId:requestId`, the first command of a key is kept, and a later
one must agree with it in message id, room and body.

The lemmas describe the kept commands.  When no two commands share the
string without sharing the key, every command of an accepted batch is
represented by a kept command of its own key.
-/

namespace ChatBackend.Writer.WriteCommands

open ChatBackend.Storage.Schema

structure MessageWriteCommand where
  messageId : MessageId
  requestId : String
  senderId : UserId
  roomId : RoomId
  body : String
  acceptedAt : Timestamp
  originConnectionId : Option ConnectionId := none
deriving DecidableEq, Repr

/-- The database key of a command. -/
def MessageWriteCommand.key (command : MessageWriteCommand) : WriteKey :=
  (command.senderId, command.requestId)

def messageWriteKey (senderId requestId : String) : String :=
  senderId ++ ":" ++ requestId

/-- The key under which a command is stored in a JavaScript map. -/
def MessageWriteCommand.mapKey (command : MessageWriteCommand) : String :=
  messageWriteKey command.senderId command.requestId

/-- A repeated command must agree with the command kept for its key. -/
def MessageWriteCommand.agrees
    (existing command : MessageWriteCommand) : Bool :=
  existing.messageId == command.messageId &&
    existing.roomId == command.roomId &&
    existing.body == command.body

theorem MessageWriteCommand.agrees_iff
    (existing command : MessageWriteCommand) :
    existing.agrees command = true ↔
      existing.messageId = command.messageId ∧
        existing.roomId = command.roomId ∧
        existing.body = command.body := by
  simp [MessageWriteCommand.agrees, and_assoc]

/-- The loop of `dedupeMessageWriteCommands` with the commands kept so far. -/
def dedupeFrom (deduped : List MessageWriteCommand) :
    List MessageWriteCommand →
      Except Failure (List MessageWriteCommand)
  | [] => .ok deduped
  | command :: rest =>
      match deduped.find? fun kept => kept.mapKey == command.mapKey with
      | none => dedupeFrom (deduped ++ [command]) rest
      | some existing =>
          if existing.agrees command then dedupeFrom deduped rest
          else .error .conflictingCommands

def dedupeMessageWriteCommands
    (commands : List MessageWriteCommand) :
    Except Failure (List MessageWriteCommand) :=
  dedupeFrom [] commands

/-- Inversion for one command of the loop. -/
theorem dedupeFrom_cons_ok
    {deduped result : List MessageWriteCommand}
    {command : MessageWriteCommand}
    {rest : List MessageWriteCommand}
    (accepted : dedupeFrom deduped (command :: rest) = .ok result) :
    ((∀ kept ∈ deduped, kept.mapKey ≠ command.mapKey) ∧
        dedupeFrom (deduped ++ [command]) rest = .ok result) ∨
      ((∃ kept ∈ deduped, kept.mapKey = command.mapKey ∧
          kept.agrees command = true) ∧
        dedupeFrom deduped rest = .ok result) := by
  unfold dedupeFrom at accepted
  cases found :
      deduped.find? fun kept => kept.mapKey == command.mapKey with
  | none =>
      simp only [found] at accepted
      rw [List.find?_eq_none] at found
      left
      exact ⟨fun kept member => by simpa using found kept member, accepted⟩
  | some existing =>
      simp only [found] at accepted
      have existingMember := List.mem_of_find?_eq_some found
      have sameKey : existing.mapKey = command.mapKey := by
        simpa using List.find?_some found
      by_cases agreed : existing.agrees command = true
      · rw [if_pos agreed] at accepted
        exact
          Or.inr
            ⟨⟨existing, existingMember, sameKey, agreed⟩, accepted⟩
      · rw [if_neg agreed] at accepted
        simp at accepted

/-- The loop only adds commands at the end. -/
theorem dedupeFrom_extends
    {deduped commands result : List MessageWriteCommand}
    (accepted : dedupeFrom deduped commands = .ok result) :
    ∃ added, result = deduped ++ added ∧ added.Sublist commands := by
  induction commands generalizing deduped with
  | nil =>
      simp only [dedupeFrom, Except.ok.injEq] at accepted
      exact ⟨[], by simp [accepted], List.Sublist.refl []⟩
  | cons command rest induction =>
      rcases dedupeFrom_cons_ok accepted with
        ⟨_, continued⟩ | ⟨_, continued⟩
      · rcases induction continued with ⟨added, rfl, sublist⟩
        exact
          ⟨command :: added, by simp, sublist.cons_cons command⟩
      · rcases induction continued with ⟨added, rfl, sublist⟩
        exact ⟨added, rfl, sublist.cons command⟩

theorem dedupeFrom_mapKeys_nodup
    {deduped commands result : List MessageWriteCommand}
    (distinct : (deduped.map MessageWriteCommand.mapKey).Nodup)
    (accepted : dedupeFrom deduped commands = .ok result) :
    (result.map MessageWriteCommand.mapKey).Nodup := by
  induction commands generalizing deduped with
  | nil =>
      simp only [dedupeFrom, Except.ok.injEq] at accepted
      exact accepted ▸ distinct
  | cons command rest induction =>
      rcases dedupeFrom_cons_ok accepted with
        ⟨fresh, continued⟩ | ⟨_, continued⟩
      · apply induction _ continued
        rw [List.map_append, List.nodup_append]
        refine ⟨distinct, by simp, ?_⟩
        intro keptKey keptMember newKey newMember
        rcases List.mem_map.mp keptMember with ⟨kept, member, rfl⟩
        rw [List.map_singleton, List.mem_singleton] at newMember
        rw [newMember]
        exact fresh kept member
      · exact induction distinct continued

theorem dedupeFrom_represents
    {deduped commands result : List MessageWriteCommand}
    (accepted : dedupeFrom deduped commands = .ok result) :
    ∀ command ∈ commands,
      ∃ kept ∈ result, kept.mapKey = command.mapKey ∧
        kept.agrees command = true := by
  induction commands generalizing deduped with
  | nil => simp
  | cons head rest induction =>
      intro command member
      rcases List.mem_cons.mp member with rfl | restMember
      · rcases dedupeFrom_cons_ok accepted with
          ⟨_, continued⟩ | ⟨⟨kept, keptMember, same, agreed⟩, continued⟩
        · rcases dedupeFrom_extends continued with ⟨added, rfl, _⟩
          refine ⟨command, by simp, rfl, ?_⟩
          simp [MessageWriteCommand.agrees]
        · rcases dedupeFrom_extends continued with ⟨added, rfl, _⟩
          exact
            ⟨kept, List.mem_append_left _ keptMember, same, agreed⟩
      · rcases dedupeFrom_cons_ok accepted with
          ⟨_, continued⟩ | ⟨_, continued⟩
        · exact induction continued command restMember
        · exact induction continued command restMember

/-- The loop ends when commands with one map key always agree. -/
theorem dedupeFrom_of_agreeing
    {deduped commands : List MessageWriteCommand}
    (agreeing :
      ∀ left ∈ deduped ++ commands, ∀ right ∈ deduped ++ commands,
        left.mapKey = right.mapKey → left.agrees right = true) :
    ∃ result, dedupeFrom deduped commands = .ok result := by
  induction commands generalizing deduped with
  | nil => exact ⟨deduped, rfl⟩
  | cons command rest induction =>
      unfold dedupeFrom
      cases found :
          deduped.find? fun kept => kept.mapKey == command.mapKey with
      | none =>
          apply induction
          simpa using agreeing
      | some existing =>
          have existingMember := List.mem_of_find?_eq_some found
          have sameKey : existing.mapKey = command.mapKey := by
            simpa using List.find?_some found
          have agreed : existing.agrees command = true :=
            agreeing existing (List.mem_append_left _ existingMember)
              command (by simp) sameKey
          have fewer :
              (deduped ++ rest).Sublist (deduped ++ command :: rest) :=
            (List.sublist_cons_self command rest).append_left deduped
          simp only [agreed, if_true]
          apply induction
          intro left leftMember right rightMember
          exact
            agreeing left (fewer.mem leftMember) right
              (fewer.mem rightMember)

section Deduped

variable {commands deduped : List MessageWriteCommand}

/-- A batch is accepted when commands with one map key always agree. -/
theorem dedupe_of_agreeing
    (agreeing :
      ∀ left ∈ commands, ∀ right ∈ commands,
        left.mapKey = right.mapKey → left.agrees right = true) :
    ∃ deduped, dedupeMessageWriteCommands commands = .ok deduped :=
  dedupeFrom_of_agreeing agreeing

/-- The kept commands are commands of the batch, in their order. -/
theorem dedupe_sublist
    (accepted : dedupeMessageWriteCommands commands = .ok deduped) :
    deduped.Sublist commands := by
  rcases dedupeFrom_extends accepted with ⟨added, rfl, sublist⟩
  simpa using sublist

theorem dedupe_mapKeys_nodup
    (accepted : dedupeMessageWriteCommands commands = .ok deduped) :
    (deduped.map MessageWriteCommand.mapKey).Nodup :=
  dedupeFrom_mapKeys_nodup (by simp) accepted

/-- The map key is computed from the key. -/
theorem mapKey_eq_of_key_eq
    {left right : MessageWriteCommand} (same : left.key = right.key) :
    left.mapKey = right.mapKey := by
  simp only [MessageWriteCommand.key, Prod.mk.injEq] at same
  simp [MessageWriteCommand.mapKey, messageWriteKey, same]

/-- No two kept commands have the same key. -/
theorem dedupe_keys_nodup
    (accepted : dedupeMessageWriteCommands commands = .ok deduped) :
    (deduped.map MessageWriteCommand.key).Nodup := by
  have distinct := dedupe_mapKeys_nodup accepted
  rw [List.Nodup, List.pairwise_map] at distinct ⊢
  exact distinct.imp fun different same =>
    different (mapKey_eq_of_key_eq same)

/-- Every command is represented by a kept command with its map key. -/
theorem dedupe_represents
    (accepted : dedupeMessageWriteCommands commands = .ok deduped) :
    ∀ command ∈ commands,
      ∃ kept ∈ deduped, kept.mapKey = command.mapKey ∧
        kept.agrees command = true :=
  dedupeFrom_represents accepted

@[simp]
theorem dedupe_singleton (command : MessageWriteCommand) :
    dedupeMessageWriteCommands [command] = .ok [command] := by
  simp [dedupeMessageWriteCommands, dedupeFrom]

end Deduped

/-- Commands which share the map key share the key. -/
def MapKeysFaithful (commands : List MessageWriteCommand) : Prop :=
  ∀ left ∈ commands, ∀ right ∈ commands,
    left.mapKey = right.mapKey → left.key = right.key

theorem MapKeysFaithful.subset
    {commands fewer : List MessageWriteCommand}
    (faithful : MapKeysFaithful commands) (subset : fewer ⊆ commands) :
    MapKeysFaithful fewer :=
  fun left leftMember right rightMember =>
    faithful left (subset leftMember) right (subset rightMember)

/-- The loop keeps the first command of every key. -/
theorem dedupeFrom_find
    {deduped commands result : List MessageWriteCommand}
    (faithful : MapKeysFaithful (deduped ++ commands))
    (accepted : dedupeFrom deduped commands = .ok result)
    (key : WriteKey) :
    (result.find? fun command => command.key == key) =
      (deduped ++ commands).find? fun command => command.key == key := by
  induction commands generalizing deduped with
  | nil =>
      simp only [dedupeFrom, Except.ok.injEq] at accepted
      simp [accepted]
  | cons command rest induction =>
      rcases dedupeFrom_cons_ok accepted with
        ⟨_, continued⟩ | ⟨⟨kept, member, sameMapKey, _⟩, continued⟩
      · have moved :
            deduped ++ [command] ++ rest = deduped ++ command :: rest := by
          simp
        rw [← moved]
        exact induction (moved ▸ faithful) continued
      · have sameKey : kept.key = command.key :=
          faithful kept (List.mem_append_left _ member) command
            (by simp) sameMapKey
        have fewer :
            (deduped ++ rest).Sublist (deduped ++ command :: rest) :=
          (List.sublist_cons_self command rest).append_left deduped
        have shorter : MapKeysFaithful (deduped ++ rest) :=
          faithful.subset fewer.subset
        rw [induction shorter continued, List.find?_append,
          List.find?_append]
        cases found : deduped.find? fun command => command.key == key with
        | some first => rfl
        | none =>
            rw [List.find?_eq_none] at found
            rw [List.find?_cons_of_neg]
            rw [← sameKey]
            exact found kept member

/-- Deduplication keeps the first command of every key. -/
theorem dedupe_find
    {commands deduped : List MessageWriteCommand}
    (faithful : MapKeysFaithful commands)
    (accepted : dedupeMessageWriteCommands commands = .ok deduped)
    (key : WriteKey) :
    (deduped.find? fun command => command.key == key) =
      commands.find? fun command => command.key == key := by
  have start : MapKeysFaithful ([] ++ commands) := faithful
  exact dedupeFrom_find start accepted key

/-- A string without colons ends where the first colon of a text stands. -/
theorem append_colon_injective
    {left right leftRest rightRest : List Char}
    (leftFree : ':' ∉ left) (rightFree : ':' ∉ right)
    (same : left ++ ':' :: leftRest = right ++ ':' :: rightRest) :
    left = right ∧ leftRest = rightRest := by
  induction left generalizing right with
  | nil =>
      cases right with
      | nil => simpa using same
      | cons head tail =>
          simp only [List.nil_append, List.cons_append,
            List.cons.injEq] at same
          exact
            (rightFree (List.mem_cons.mpr (Or.inl same.1))).elim
  | cons head tail induction =>
      cases right with
      | nil =>
          simp only [List.nil_append, List.cons_append,
            List.cons.injEq] at same
          exact (leftFree (by simp [same.1])).elim
      | cons rightHead rightTail =>
          simp only [List.cons_append, List.cons.injEq] at same
          rcases same with ⟨rfl, tails⟩
          simp only [List.mem_cons, not_or] at leftFree rightFree
          rcases induction leftFree.2 rightFree.2 tails with ⟨rfl, rests⟩
          exact ⟨rfl, rests⟩

/-- Sender ids without colons make the map key as good as the key. -/
theorem mapKeysFaithful_of_senders
    {commands : List MessageWriteCommand}
    (senders : ∀ command ∈ commands, ':' ∉ command.senderId.toList) :
    MapKeysFaithful commands := by
  intro left leftMember right rightMember same
  have characters := congrArg String.toList same
  simp only [MessageWriteCommand.mapKey, messageWriteKey,
    String.toList_append] at characters
  have split :=
    append_colon_injective (senders left leftMember)
      (senders right rightMember)
      (by simpa using characters)
  simp only [MessageWriteCommand.key, Prod.mk.injEq]
  exact
    ⟨String.toList_injective split.1, String.toList_injective split.2⟩

/-- The first message of one user, with the id that its key hashes to. -/
def exampleCommand : MessageWriteCommand where
  messageId := "msg_c90348ce6b532ea44071bd5b6f8cf75f"
  requestId := "r1"
  senderId := "ana"
  roomId := "room"
  body := "hello"
  acceptedAt := 1000

/-! ## What is kept -/

/-- Two commands have one key and differ in message id, room or body. -/
def Conflicting (commands : List MessageWriteCommand) : Prop :=
  ∃ left ∈ commands, ∃ right ∈ commands,
    left.key = right.key ∧
      (left.messageId ≠ right.messageId ∨
        left.roomId ≠ right.roomId ∨ left.body ≠ right.body)

/-- The first command of every key, in the order of these commands. -/
def firstOfEachKey (commands : List MessageWriteCommand) :
    List MessageWriteCommand :=
  commands.eraseDupsBy fun later first => later.key == first.key

/-- No kept command has the key of this one. -/
def isFresh
    (deduped : List MessageWriteCommand) (command : MessageWriteCommand) :
    Bool :=
  deduped.all fun kept => kept.key != command.key

theorem isFresh_iff
    (deduped : List MessageWriteCommand)
    (command : MessageWriteCommand) :
    isFresh deduped command = true ↔
      ∀ kept ∈ deduped, kept.key ≠ command.key := by
  simp [isFresh]

/-- The loop throws one error only. -/
theorem dedupeFrom_error
    {deduped commands : List MessageWriteCommand} {failure : Failure}
    (rejected : dedupeFrom deduped commands = .error failure) :
    failure = .conflictingCommands := by
  induction commands generalizing deduped with
  | nil => simp [dedupeFrom] at rejected
  | cons command rest induction =>
      unfold dedupeFrom at rejected
      split at rejected
      · exact induction rejected
      · split at rejected
        · exact induction rejected
        · exact (Except.error.inj rejected).symm

/--
The loop appends the first command of every key that is not yet kept; the
induction is on the commands that are left.
-/
theorem dedupeFrom_firsts
    {deduped commands result : List MessageWriteCommand}
    (faithful : MapKeysFaithful (deduped ++ commands))
    (accepted : dedupeFrom deduped commands = .ok result) :
    result =
      deduped ++
        firstOfEachKey (commands.filter (isFresh deduped)) := by
  induction commands generalizing deduped with
  | nil =>
      simp only [dedupeFrom, Except.ok.injEq] at accepted
      simp [firstOfEachKey, accepted]
  | cons command rest induction =>
      rcases dedupeFrom_cons_ok accepted with
        ⟨fresh, continued⟩ | ⟨⟨kept, member, sameMapKey, _⟩, continued⟩
      · have moved :
            deduped ++ [command] ++ rest = deduped ++ command :: rest := by
          simp
        have isNew : isFresh deduped command = true := by
          rw [isFresh_iff]
          exact fun kept member same =>
            fresh kept member (mapKey_eq_of_key_eq same)
        have laterFirsts :
            rest.filter (isFresh (deduped ++ [command])) =
              (rest.filter (isFresh deduped)).filter fun later =>
                (later.key == command.key) = false := by
          rw [List.filter_filter]
          apply List.filter_congr
          intro later _
          rw [Bool.eq_iff_iff]
          simp only [isFresh_iff, List.mem_append, List.mem_singleton,
            or_imp, forall_and, forall_eq, Bool.and_eq_true,
            decide_eq_true_eq, beq_eq_false_iff_ne]
          exact and_comm.trans (and_congr_left' ne_comm)
        rw [induction (moved ▸ faithful) continued, laterFirsts,
          List.filter_cons_of_pos isNew]
        simp [firstOfEachKey, List.eraseDupsBy_cons]
      · have sameKey : kept.key = command.key :=
          faithful kept (List.mem_append_left _ member) command
            (by simp) sameMapKey
        have repeated : ¬ isFresh deduped command = true := by
          rw [isFresh_iff]
          exact fun allOther => allOther kept member sameKey
        have fewer :
            (deduped ++ rest).Sublist (deduped ++ command :: rest) :=
          (List.sublist_cons_self command rest).append_left deduped
        rw [List.filter_cons_of_neg repeated]
        exact induction (faithful.subset fewer.subset) continued

section Exact

variable {commands deduped : List MessageWriteCommand}

/-- What is kept are the first commands of their keys. -/
theorem dedupe_firsts
    (faithful : MapKeysFaithful commands)
    (accepted : dedupeMessageWriteCommands commands = .ok deduped) :
    deduped = firstOfEachKey commands := by
  have start : MapKeysFaithful ([] ++ commands) := faithful
  have allFresh : commands.filter (isFresh []) = commands :=
    List.filter_eq_self.mpr fun _ _ => rfl
  rw [dedupeFrom_firsts start accepted, allFresh, List.nil_append]

/-- Commands that one kept command represents do not conflict. -/
theorem not_conflicting_of_accepted
    (accepted : dedupeMessageWriteCommands commands = .ok deduped) :
    ¬ Conflicting commands := by
  rintro ⟨left, leftMember, right, rightMember, sameKey, differ⟩
  rcases dedupe_represents accepted left leftMember with
    ⟨leftKept, leftIn, leftKey, leftAgrees⟩
  rcases dedupe_represents accepted right rightMember with
    ⟨rightKept, rightIn, rightKey, rightAgrees⟩
  have sameKept : leftKept = rightKept := by
    apply List.inj_on_of_nodup_map (dedupe_mapKeys_nodup accepted)
      leftIn rightIn
    rw [leftKey, rightKey, mapKey_eq_of_key_eq sameKey]
  subst sameKept
  rw [MessageWriteCommand.agrees_iff] at leftAgrees rightAgrees
  rcases leftAgrees with ⟨leftId, leftRoom, leftBody⟩
  rcases rightAgrees with ⟨rightId, rightRoom, rightBody⟩
  rcases differ with ids | rooms | bodies
  · exact ids (leftId.symm.trans rightId)
  · exact rooms (leftRoom.symm.trans rightRoom)
  · exact bodies (leftBody.symm.trans rightBody)

/-- Without a conflict the loop runs to its end. -/
theorem accepted_of_not_conflicting
    (faithful : MapKeysFaithful commands)
    (agreeing : ¬ Conflicting commands) :
    ∃ deduped, dedupeMessageWriteCommands commands = .ok deduped := by
  apply dedupe_of_agreeing
  intro left leftMember right rightMember sameMapKey
  have sameKey := faithful left leftMember right rightMember sameMapKey
  rw [MessageWriteCommand.agrees_iff]
  by_contra differ
  apply agreeing
  refine ⟨left, leftMember, right, rightMember, sameKey, ?_⟩
  by_cases ids : left.messageId = right.messageId
  · by_cases rooms : left.roomId = right.roomId
    · exact Or.inr (Or.inr fun bodies => differ ⟨ids, rooms, bodies⟩)
    · exact Or.inr (Or.inl rooms)
  · exact Or.inl ids

/--
Deduplication throws exactly for conflicting commands, and otherwise keeps
exactly the first command of every key.
-/
theorem dedupe_exact
    (senders : ∀ command ∈ commands, ':' ∉ command.senderId.toList) :
    (dedupeMessageWriteCommands commands =
          .error .conflictingCommands ↔
        Conflicting commands) ∧
      (¬ Conflicting commands →
        dedupeMessageWriteCommands commands =
          .ok (firstOfEachKey commands)) := by
  have faithful := mapKeysFaithful_of_senders senders
  refine ⟨⟨?_, ?_⟩, ?_⟩
  · intro rejected
    by_contra agreeing
    rcases accepted_of_not_conflicting faithful agreeing with
      ⟨deduped, accepted⟩
    simp [accepted] at rejected
  · intro conflict
    cases outcome : dedupeMessageWriteCommands commands with
    | ok deduped =>
        exact absurd conflict (not_conflicting_of_accepted outcome)
    | error failure => rw [dedupeFrom_error outcome]
  · intro agreeing
    rcases accepted_of_not_conflicting faithful agreeing with
      ⟨deduped, accepted⟩
    rw [accepted, dedupe_firsts faithful accepted]

end Exact

/-- A request id may hold a colon; repeated commands are dropped. -/
theorem dedupe_exact_example :
    dedupeMessageWriteCommands
          [exampleCommand, { exampleCommand with requestId := "r1:a" },
            exampleCommand] =
        .ok
          [exampleCommand,
            { exampleCommand with requestId := "r1:a" }] ∧
      dedupeMessageWriteCommands
          [exampleCommand, { exampleCommand with body := "bye" }] =
        .error .conflictingCommands := by
  constructor
  · refine (dedupe_exact (by decide)).2 ?_
    rintro ⟨left, leftMember, right, rightMember, sameKey, differ⟩
    revert left right
    decide
  · refine (dedupe_exact (by decide)).1.mpr ?_
    exact
      ⟨exampleCommand, by simp,
        { exampleCommand with body := "bye" }, by simp, rfl,
        Or.inr (Or.inr (by decide))⟩

end ChatBackend.Writer.WriteCommands
