import ChatBackend.Chats.HistoryPages
import ChatBackend.Realtime.JsonTexts
import Mathlib.Algebra.Group.Nat.Defs

/-!
# The limit of a page

The query parameter `limit` is a text, a list or an object, which `Number`
turns into a number.  A text is read by the grammar of numeric literals, and
a decimal is rounded to the nearest double.

`getMessages` replaces what is no number by 50 and takes the minimum with
100.  Nothing bounds the number from below or makes it an integer, so a
negative number and a fraction reach the queries: `page_size_capped_iff`.  Of
a fraction the queries take the integer part: `rows_capped_iff`.
-/

namespace ChatBackend.Chats.PageLimits

open ChatBackend.Foundation
open ChatBackend.Storage.Schema
open ChatBackend.Realtime.ServerFrames
open ChatBackend.Realtime.JsonTexts
open ChatBackend.Chats.ChatQueries
open ChatBackend.Chats.ChatReads
open ChatBackend.Chats.History
open ChatBackend.Chats.HistoryPages

/-! ## The nearest double -/

/-- A quotient rounded to the nearest integer, or to the even one. -/
def roundHalfEven (dividend divisor : Nat) : Nat :=
  let quotient := dividend / divisor
  let remainder := dividend % divisor
  if 2 * remainder < divisor then quotient
  else if divisor < 2 * remainder then quotient + 1
  else quotient + quotient % 2

/-- The exponent of the first binary digit of a positive quotient. -/
def binaryExponent (dividend divisor : Nat) : Int :=
  let estimate : Int := (dividend.log2 : Int) - divisor.log2
  if divisor * 2 ^ estimate.toNat ≤ dividend * 2 ^ (-estimate).toNat then
    estimate
  else estimate - 1

/-- The double nearest to a quotient; it overflows from `2 ^ 1024`. -/
def nearestDouble (dividend divisor : Nat) : JsNumber :=
  if dividend = 0 then .integer 0
  else
    let unit := max (binaryExponent dividend divisor - 52) (-1074)
    let significand :=
      roundHalfEven (dividend * 2 ^ (-unit).toNat)
        (divisor * 2 ^ unit.toNat)
    let scaled := significand * 2 ^ unit.toNat
    let scale := 2 ^ (-unit).toNat
    if 2 ^ 1024 * scale ≤ scaled then .infinity
    else if scaled % scale = 0 then .integer (scaled / scale : Nat)
    else .fraction (scaled / scale : Nat)

/-! ## Numeric literals -/

def digitsValue (base : Nat) (digits : List Nat) : Nat :=
  digits.foldl (fun value digit => base * value + digit) 0

/-- The digits of a literal without a sign, point or exponent. -/
def integerLiteral (base : Nat) (text : List Char) : JsNumber :=
  match text.mapM hexDigit with
  | none => .nan
  | some digits =>
      if digits = [] ∨ digits.any fun digit => base ≤ digit then .nan
      else nearestDouble (digitsValue base digits) 1

/-- An exponent, which may be missing; it ends the literal. -/
def exponentPart (text : List Char) : Option Int :=
  let magnitude := fun digits : List Char =>
    if digits = [] ∨ !digits.all isDigit then none
    else some (digitsValue 10 (digits.filterMap hexDigit))
  match text with
  | [] => some 0
  | letter :: rest =>
      if letter = 'e' ∨ letter = 'E' then
        match rest with
        | '+' :: digits => (magnitude digits).map fun value => value
        | '-' :: digits => (magnitude digits).map fun value => -value
        | digits => (magnitude digits).map fun value => value
      else none

/-- A decimal literal without its sign. -/
def unsignedDecimal (text : List Char) : JsNumber :=
  if text = "Infinity".toList then .infinity
  else
    let whole := text.takeWhile isDigit
    let (fraction, rest) :=
      match text.dropWhile isDigit with
      | '.' :: rest => (rest.takeWhile isDigit, rest.dropWhile isDigit)
      | rest => ([], rest)
    let digits := (whole ++ fraction).filterMap hexDigit
    if digits = [] then .nan
    else
      match exponentPart rest with
      | none => .nan
      | some exponent =>
          let power := exponent - fraction.length
          nearestDouble (digitsValue 10 digits * 10 ^ power.toNat)
            (10 ^ (-power).toNat)

def negated : JsNumber → JsNumber
  | .nan => .nan
  | .integer value => .integer (-value)
  | .fraction floor => .fraction (-floor - 1)
  | .infinity => .negativeInfinity
  | .negativeInfinity => .infinity

/-- `StringToNumber`. -/
def stringToNumber (text : String) : JsNumber :=
  match (trim text).toList with
  | [] => .integer 0
  | '0' :: 'b' :: digits | '0' :: 'B' :: digits =>
      integerLiteral 2 digits
  | '0' :: 'o' :: digits | '0' :: 'O' :: digits =>
      integerLiteral 8 digits
  | '0' :: 'x' :: digits | '0' :: 'X' :: digits =>
      integerLiteral 16 digits
  | '+' :: rest => unsignedDecimal rest
  | '-' :: rest => negated (unsignedDecimal rest)
  | rest => unsignedDecimal rest

example :
    [" 7 ", "-5", "2.5", "1e2", "0x1F", "ten"].map stringToNumber =
      [.integer 7, .integer (-5), .fraction 2, .integer 100, .integer 31,
        .nan] := by
  decide +kernel

/-! ## Query parameters -/

/-- What the query parser makes of a parameter. -/
inductive QueryValue where
  | text (value : String)
  | array (items : List QueryValue)
  | object (fields : List (String × QueryValue))

/--
The text of a value.  A parameter such as `limit[toString]` is an object
whose `toString` is no function, so that the conversion throws.
-/
def QueryValue.toText : QueryValue → Option String
  | .text value => some value
  | .array items => (itemTexts items).map (String.intercalate ",")
  | .object fields =>
      if fields.any fun field => field.1 == "toString" then none
      else some "[object Object]"
where
  itemTexts : List QueryValue → Option (List String)
    | [] => some []
    | item :: rest =>
        item.toText.bind fun text =>
          (itemTexts rest).map fun texts => text :: texts

/-- `Number(input.limit ?? '50')`; none when the conversion throws. -/
def limitNumber (limit : Option QueryValue) : Option JsNumber :=
  ((limit.getD (.text "50")).toText).map stringToNumber

structure MessagesRequest where
  userId : UserId
  chatId : RoomId
  beforeMessageId : Option String := none
  limit : Option QueryValue := none

def MessagesRequest.withLimit
    (request : MessagesRequest) (number : JsNumber) :
    GetMessagesInput where
  userId := request.userId
  chatId := request.chatId
  beforeMessageId := request.beforeMessageId
  limit := some number

/-- The service's input, unless the conversion of the limit throws. -/
def MessagesRequest.input (request : MessagesRequest) :
    Option GetMessagesInput :=
  (limitNumber request.limit).map request.withLimit

/-- The number that both queries are asked for. -/
def MessagesRequest.requestedSize (request : MessagesRequest) :
    Option JsNumber :=
  request.input.map GetMessagesInput.requestedSize

/-- The rows that both queries take, unless they reject. -/
def MessagesRequest.take (request : MessagesRequest) : Option Int :=
  request.input.bind GetMessagesInput.pageSize

/-- The answer of `getMessages`; none when the limit makes it throw. -/
def answerMessages
    (db : Database) (request : MessagesRequest) :
    Option (Except ReadFailure (List ChatMessage)) :=
  request.input.map (getMessages db)

/-! ## The cap -/

/-- The numbers that the one-sided minimum turns into a page size. -/
def CapsTo100 : JsNumber → Prop
  | .nan => True
  | .integer value => 0 ≤ value
  | .fraction floor => 100 ≤ floor
  | .infinity => True
  | .negativeInfinity => False

/-- The numbers for which the queries take 1 to 100 rows. -/
def TakesUpTo100 : JsNumber → Prop
  | .nan => True
  | .integer value => 0 ≤ value
  | .fraction floor => 1 ≤ floor
  | .infinity => True
  | .negativeInfinity => False

theorem requestedSize_capped_iff (number : JsNumber) :
    (∃ size : Nat,
        number.orFifty.atMost100 = .integer size ∧ 1 ≤ size ∧
          size ≤ 100) ↔
      CapsTo100 number := by
  cases number with
  | nan =>
      exact ⟨fun _ => trivial, fun _ => ⟨50, rfl, by decide, by decide⟩⟩
  | integer value =>
      simp only [JsNumber.orFifty, JsNumber.atMost100,
        JsNumber.integer.injEq, CapsTo100]
      constructor
      · rintro ⟨size, same, positive, _⟩
        split at same <;> omega
      · intro notNegative
        refine
          ⟨(min (if value = 0 then 50 else value) 100).toNat, ?_⟩
        split <;> omega
  | fraction floor =>
      simp only [JsNumber.orFifty, JsNumber.atMost100, CapsTo100]
      constructor
      · rintro ⟨size, same, _⟩
        split at same
        · assumption
        · cases same
      · intro large
        rw [if_pos large]
        exact ⟨100, rfl, by decide, by decide⟩
  | infinity =>
      exact ⟨fun _ => trivial, fun _ => ⟨100, rfl, by decide, by decide⟩⟩
  | negativeInfinity =>
      refine ⟨?_, False.elim⟩
      rintro ⟨size, same, _⟩
      cases same

/-- A page size that is capped is taken as it is. -/
theorem takeOf_capped {size : Nat} (atMost : size ≤ 100) :
    takeOf (.integer size) = some (size : Int) := by
  rw [takeOf, JsNumber.truncate, Option.filter_some, if_pos]
  rw [Bool.and_eq_true, decide_eq_true_eq, decide_eq_true_eq]
  omega

theorem truncate_of_takeOf
    {number : JsNumber} {rows : Int} (taken : takeOf number = some rows) :
    number.truncate = some rows :=
  (Option.filter_eq_some_iff.mp taken).1

theorem fraction_requested (floor : Int) :
    (JsNumber.fraction floor).orFifty.atMost100 =
      if 100 ≤ floor then .integer 100 else .fraction floor :=
  rfl

/-- What is an integer at the queries is taken as it was asked for. -/
theorem takeOf_capped_iff_of_integer
    {number : JsNumber}
    (isInteger :
      ∀ rows, number.orFifty.atMost100.truncate = some rows →
        number.orFifty.atMost100 = .integer rows) :
    (∃ size : Nat,
        takeOf number.orFifty.atMost100 = some (size : Int) ∧
          1 ≤ size ∧ size ≤ 100) ↔
      CapsTo100 number := by
  rw [← requestedSize_capped_iff]
  constructor
  · rintro ⟨size, taken, bounds⟩
    exact ⟨size, isInteger _ (truncate_of_takeOf taken), bounds⟩
  · rintro ⟨size, asked, positive, atMost⟩
    exact ⟨size, asked ▸ takeOf_capped atMost, positive, atMost⟩

theorem takeOf_capped_iff (number : JsNumber) :
    (∃ size : Nat,
        takeOf number.orFifty.atMost100 = some (size : Int) ∧
          1 ≤ size ∧ size ≤ 100) ↔
      TakesUpTo100 number := by
  cases number with
  | nan | integer | infinity =>
      refine takeOf_capped_iff_of_integer fun rows truncated => ?_
      cases truncated
      rfl
  | negativeInfinity =>
      refine takeOf_capped_iff_of_integer fun rows truncated => ?_
      cases truncated
  | fraction floor =>
      by_cases large : 100 ≤ floor
      · have isInteger :
            ∀ rows,
              (JsNumber.fraction floor).orFifty.atMost100.truncate =
                  some rows →
                (JsNumber.fraction floor).orFifty.atMost100 =
                  .integer rows := by
          intro rows truncated
          rw [fraction_requested, if_pos large] at truncated ⊢
          cases truncated
          rfl
        rw [takeOf_capped_iff_of_integer isInteger, CapsTo100,
          TakesUpTo100]
        omega
      · rw [fraction_requested, if_neg large, TakesUpTo100]
        constructor
        · rintro ⟨size, taken, positive, _⟩
          have truncated := truncate_of_takeOf taken
          rw [JsNumber.truncate, Option.some.injEq] at truncated
          split at truncated <;> omega
        · intro positive
          refine ⟨floor.toNat, ?_, by omega, by omega⟩
          rw [takeOf, JsNumber.truncate, if_pos (by omega),
            Option.filter_some, if_pos, Int.toNat_of_nonneg (by omega)]
          rw [Bool.and_eq_true, decide_eq_true_eq, decide_eq_true_eq]
          omega

example :
    ["2.5", "-0.5", "1e21", "-1e21"].map
        (fun text => takeOf (stringToNumber text).orFifty.atMost100) =
      [some 2, some 0, some 100, none] := by
  decide +kernel

/-- The entries of one table that a page can show. -/
def tableBefore
    {Row : Type} (entry : Row → ChatMessage) (rows : List Row)
    (before : Option Timestamp) : List ChatMessage :=
  (rows.map entry).filter fun shown => isBefore before shown.createdAt

section Pages

variable {db : Database} {chatId : RoomId} {before : Option Timestamp}
  {limit : Nat}

theorem amongNewest_of_taken
    {Row : Type} {time : Row → Timestamp} {entry : Row → ChatMessage}
    (sameTime : ∀ row, (entry row).createdAt = time row)
    {rows : List Row}
    (sorted :
      rows.Pairwise fun first second => time second ≤ time first)
    {shown : ChatMessage}
    (taken :
      shown ∈
        (takeRows (limit : Int)
            (rows.filter fun row => isBefore before (time row))).map
          entry) :
    KeysetPages.AmongNewest ChatMessage.createdAt limit
      (tableBefore entry rows before) shown := by
  rw [map_takeRows time entry sameTime] at taken
  refine KeysetPages.amongNewest_of_mem_take ?_ taken
  refine List.Pairwise.sublist List.filter_sublist ?_
  rw [List.pairwise_map]
  exact sorted.imp fun older => by rw [sameTime, sameTime]; exact older

/-- What is shown is new in the table that it comes from. -/
theorem historyPage_amongNewest
    {shown : ChatMessage}
    (member : shown ∈ historyPage db chatId before limit) :
    KeysetPages.AmongNewest ChatMessage.createdAt limit
        (tableBefore toChatMessage (roomMessages db chatId) before)
        shown ∨
      KeysetPages.AmongNewest ChatMessage.createdAt limit
        (tableBefore toPendingMessageDto (roomPendingWrites db chatId)
          before)
        shown := by
  rw [historyPage, sliceTo_natCast] at member
  have merged := List.mem_of_mem_take member
  rw [mem_latestFirst, mergeEntries] at merged
  rcases List.mem_append.mp merged with isMessage | isWrite
  · left
    exact
      amongNewest_of_taken (fun _ => rfl)
        (latestFirst_sorted Message.createdAt _) isMessage
  · right
    have unmerged :=
      (List.filter_sublist.map toPendingMessageDto).mem isWrite
    exact
      amongNewest_of_taken (fun _ => rfl)
        (latestFirst_sorted MessageWrite.acceptedAt _) unmerged

theorem historyPage_length_le :
    (historyPage db chatId before limit).length ≤ limit := by
  rw [historyPage, sliceTo_natCast]
  exact List.length_take_le _ _

end Pages

/--
A page of at most `size` entries, all of them new in their tables.  Where no
pending write shares its id with a message, they are the newest of both
together.
-/
structure PageCapped
    (db : Database) (request : MessagesRequest)
    (before : Option Timestamp) (size : Nat) (page : List ChatMessage) :
    Prop where
  length_le : page.length ≤ size
  newest :
    ∀ shown ∈ page,
      KeysetPages.AmongNewest ChatMessage.createdAt size
          (tableBefore toChatMessage (roomMessages db request.chatId)
            before)
          shown ∨
        KeysetPages.AmongNewest ChatMessage.createdAt size
          (tableBefore toPendingMessageDto
            (roomPendingWrites db request.chatId) before)
          shown
  top :
    PendingApart db request.chatId →
      KeysetPages.TopOf ChatMessage.createdAt size
        (entriesBefore db request.chatId before) page

/--
Both queries are asked for the same integer from 1 to 100, and the page is
capped by it.
-/
def Capped
    (db : Database) (request : MessagesRequest)
    (before : Option Timestamp) : Prop :=
  ∃ size : Nat,
    request.requestedSize = some (.integer size) ∧
      1 ≤ size ∧ size ≤ 100 ∧
        ∃ page,
          answerMessages db request = some (.ok page) ∧
            PageCapped db request before size page

/-- Both queries take the same 1 to 100 rows, which cap the page. -/
def RowsCapped
    (db : Database) (request : MessagesRequest)
    (before : Option Timestamp) : Prop :=
  ∃ size : Nat,
    request.take = some (size : Int) ∧
      1 ≤ size ∧ size ≤ 100 ∧
        ∃ page,
          answerMessages db request = some (.ok page) ∧
            PageCapped db request before size page

section Answers

variable {db : Database} (valid : db.Valid) (request : MessagesRequest)
  (member : (findRoomMembership db request.userId request.chatId).isSome)
  {before : Option Timestamp}
  (reads : CursorTime db request.beforeMessageId before)

include valid member reads

/-- A member is answered with the rows that both queries take. -/
theorem answerMessages_of_take
    {size : Nat} (taken : request.take = some (size : Int)) :
    ∃ page,
      answerMessages db request = some (.ok page) ∧
        PageCapped db request before size page := by
  rcases Option.bind_eq_some_iff.mp taken with ⟨input, isInput, pageSize⟩
  rcases Option.map_eq_some_iff.mp isInput with ⟨number, _, rfl⟩
  rcases Option.isSome_iff_exists.mp member with ⟨row, found⟩
  have answered :
      getMessages db (request.withLimit number) =
        .ok (historyPage db request.chatId before size) := by
    unfold getMessages
    rw [pageSize]
    simp only [MessagesRequest.withLimit, found,
      cursorCreatedAt_of_cursorTime valid reads]
  refine ⟨historyPage db request.chatId before size, ?_, ?_⟩
  · rw [answerMessages, isInput, Option.map_some, answered]
  · exact
      { length_le := historyPage_length_le
        newest := fun shown => historyPage_amongNewest
        top := fun apart => historyPage_topOf apart before size }

/--
For a member, the page is capped if and only if the limit is read as a number
that is not negative, and is an integer below 100: whatever is no number
counts as 50, and what is larger as 100.
-/
theorem page_size_capped_iff :
    Capped db request before ↔
      ∃ number,
        limitNumber request.limit = some number ∧ CapsTo100 number := by
  constructor
  · rintro ⟨size, asked, positive, atMost, _⟩
    rcases Option.map_eq_some_iff.mp asked with ⟨input, isInput, isSize⟩
    rcases Option.map_eq_some_iff.mp isInput with ⟨number, isNumber, rfl⟩
    exact
      ⟨number, isNumber,
        (requestedSize_capped_iff number).mp
          ⟨size, isSize, positive, atMost⟩⟩
  · rintro ⟨number, isNumber, caps⟩
    have isInput : request.input = some (request.withLimit number) := by
      rw [MessagesRequest.input, isNumber, Option.map_some]
    rcases (requestedSize_capped_iff number).mpr caps with
      ⟨size, isSize, positive, atMost⟩
    have asked : (request.withLimit number).requestedSize = .integer size :=
      isSize
    have taken : request.take = some (size : Int) := by
      rw [MessagesRequest.take, isInput, Option.bind_some,
        GetMessagesInput.pageSize, asked, takeOf_capped atMost]
    refine
      ⟨size, ?_, positive, atMost,
        answerMessages_of_take valid request member reads taken⟩
    rw [MessagesRequest.requestedSize, isInput, Option.map_some, asked]

/-- The queries take 1 to 100 rows for a fraction from 1 on, too. -/
theorem rows_capped_iff :
    RowsCapped db request before ↔
      ∃ number,
        limitNumber request.limit = some number ∧
          TakesUpTo100 number := by
  constructor
  · rintro ⟨size, taken, positive, atMost, _⟩
    rcases Option.bind_eq_some_iff.mp taken with
      ⟨input, isInput, pageSize⟩
    rcases Option.map_eq_some_iff.mp isInput with ⟨number, isNumber, rfl⟩
    exact
      ⟨number, isNumber,
        (takeOf_capped_iff number).mp ⟨size, pageSize, positive, atMost⟩⟩
  · rintro ⟨number, isNumber, takes⟩
    rcases (takeOf_capped_iff number).mpr takes with
      ⟨size, pageSize, positive, atMost⟩
    have taken : request.take = some (size : Int) := by
      rw [MessagesRequest.take, MessagesRequest.input, isNumber,
        Option.map_some, Option.bind_some]
      exact pageSize
    exact
      ⟨size, taken, positive, atMost,
        answerMessages_of_take valid request member reads taken⟩

end Answers

/-- The first page of Alice's room. -/
def exampleRequest (limit : String) : MessagesRequest where
  userId := "alice"
  chatId := "room"
  limit := some (.text limit)

theorem page_size_capped_iff_large :
    Capped (exampleRoom [exampleMessage "first" 1])
      (exampleRequest "500") none :=
  (page_size_capped_iff (by constructor <;> decide)
      (exampleRequest "500") (by decide) .absent).mpr
    ⟨.integer 500, by decide +kernel, (by decide : (0 : Int) ≤ 500)⟩

theorem negative_limit_is_not_capped :
    ¬Capped (exampleRoom [exampleMessage "first" 1])
      (exampleRequest "-150") none := by
  rintro ⟨size, asked, positive, _⟩
  have isNegative :
      (exampleRequest "-150").requestedSize = some (.integer (-150)) := by
    decide +kernel
  rw [isNegative, Option.some.injEq, JsNumber.integer.injEq] at asked
  omega

end ChatBackend.Chats.PageLimits
