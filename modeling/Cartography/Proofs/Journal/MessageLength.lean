import Cartography.Proofs.Journal.Emission

/-!
# How long a message is

A message is cut to the limit of the first call for its logger, with three dots behind it, and its
arguments are filled in afterwards. The limit of the latest call holds for all messages without
arguments just if the first one is not above it, and for all messages with arguments just if the
first one leaves no room for a directive besides.
-/

namespace Cartography

/-! ### Cutting -/

namespace Entry

theorem length_cut_le {limit : Int} (positive : 0 ≤ limit) (s : String) :
    ((cut limit s).length : Int) ≤ limit + 3 := by
  rw [cut]
  split
  · omega
  · simp only [if_neg (Int.not_lt.mpr positive), String.length_append, String.length_ofList,
      List.length_take, String.length_toList]
    have dots : "...".length = 3 := rfl
    omega

/-- A text cut to a number of characters keeps its first ones. -/
theorem toList_cut (limit : Nat) (s : String) : (cut limit s).toList =
    if s.toList.length ≤ limit then s.toList else s.toList.take limit ++ ['.', '.', '.'] := by
  rw [String.length_toList, cut]
  simp only [Int.ofNat_le]
  split
  · rfl
  · rw [if_neg (Int.not_lt.mpr (Int.natCast_nonneg limit)), String.toList_append,
      String.toList_ofList]
    rfl

theorem cut_of_le {limit : Int} {s : String} (short : (s.length : Int) ≤ limit) :
    cut limit s = s := if_pos short

/-- A text with more characters than a limit has this many when it is cut. -/
theorem length_cut_of_lt {limit : Int} {s : String} (long : limit < s.length) :
    (cut limit s).length =
      (if limit < 0 then s.length - limit.natAbs else limit.natAbs) + 3 := by
  rw [cut, if_neg (Int.not_le.mpr long), String.length_append, String.length_ofList,
    List.length_take, String.length_toList]
  have dots : "...".length = 3 := rfl
  split <;> omega

end Entry

/-! ### Short templates -/

namespace Template

theorem fillFrom_plain {cs : List Char} (plain : '%' ∉ cs) (a : Arguments) :
    fillFrom cs a = some (cs, a) := by
  induction cs with
  | nil => rw [fillFrom]
  | cons c cs ih =>
      obtain ⟨other, others⟩ := not_or.mp (List.mem_cons.not.mp plain)
      rw [fillFrom, ih others]
      · rfl
      · rintro d rfl
        exact absurd rfl other
      · rintro rfl
        exact absurd rfl other

/-- A template without directives is written as it stands. -/
theorem eq_of_fill_plain {template : String} (plain : '%' ∉ template.toList)
    {arguments : List Value} {s : String} (filled : fill template arguments = some s) :
    s = template := by
  rw [fill, fillFrom_plain plain] at filled
  simp only [Option.bind_eq_bind, Option.bind_some, String.ofList_toList] at filled
  split at filled
  · exact (Option.some.inj filled).symm
  · cases filled

/-- A percent sign at the end of a template, or in front of dots only, is no directive. -/
theorem fillFrom_percent (a : Arguments) {cs : List Char} (ends : cs = [] ∨ cs = ['.', '.', '.']) :
    fillFrom ('%' :: cs) a = none := by
  rcases ends with rfl | rfl
  · rw [fillFrom]
    · rfl
    · simp
  · have read : readDirective ['.', '.', '.'] a =
        some (⟨none, [], none, some 0, '.'⟩, ['.'], a) := by
      simp [readDirective, select, isFlag, readSize, readPrecision, skipLength,
        Text.isAsciiDigit]
    rw [fillFrom]
    · cases next : a.next <;> simp [read, next, Directive.write]
    · simp

theorem fill_percent {template : String} (arguments : List Value)
    (ends : template.toList = ['%'] ∨ template.toList = ['%', '.', '.', '.']) :
    fill template arguments = none := by
  rw [fill]
  rcases ends with ends | ends <;> rw [ends, fillFrom_percent _ (by simp)] <;> rfl

/-- The directive for a text takes the whole of it. -/
theorem fill_text (s : String) : fill "%s" [.text s] = some s := by
  have letters : "%s".toList = ['%', 's'] := rfl
  have read : readDirective ['s'] ⟨[.text s], none⟩ =
      some (⟨none, [], none, none, 's'⟩, [], ⟨[.text s], none⟩) := by
    simp [readDirective, select, isFlag, readSize, readPrecision, skipLength, Text.isAsciiDigit]
  have written : Directive.write ⟨none, [], none, none, 's'⟩ (.text s) = some s.toList := by
    simp [Directive.write, Value.plain?, Directive.textBody, Directive.pad, Directive.columns,
      Directive.goesLeft, Directive.has]
  have filled : fillFrom ['%', 's'] ⟨[.text s], none⟩ = some (s.toList, ⟨[], none⟩) := by
    rw [fillFrom]
    · simp [read, Arguments.next, written, fillFrom]
    · simp
  rw [fill, letters, Arguments.ofList, filled]
  · simp [Arguments.settled]
  · simp

end Template

/-! ### The limit of the latest call -/

/-- A text cut to no character or one has no directive in it. -/
theorem Entry.cut_short {limit : Nat} (short : limit ≤ 1) (s : String) :
    '%' ∉ (cut limit s).toList ∨ (cut limit s).toList = ['%'] ∨
      (cut limit s).toList = ['%', '.', '.', '.'] := by
  rw [toList_cut]
  obtain rfl | rfl : limit = 0 ∨ limit = 1 := by omega
  · cases s.toList <;> simp
  · rcases s.toList with _ | ⟨c, rest⟩
    · simp
    · by_cases percent : c = '%'
      · subst percent
        cases rest <;> simp
      · have other : '%' ≠ c := Ne.symm percent
        cases rest <;> simp [other]

/-- A message is cut first, and arguments are filled in where there are any. -/
theorem Entry.text?_of_text {entry : Entry} {text : String} (message : entry.message = .text text)
    (limit : Int) : entry.text? limit = if entry.arguments = [] then some (cut limit text)
      else Template.fill (cut limit text) entry.arguments := by
  rw [text?, message]
  cases entry.arguments <;> rfl

/-- A message that leaves no room for a directive is not longer than its limit and the dots. -/
theorem Entry.length_text?_le {limit : Nat} (short : limit ≤ 1) {entry : Entry} {text s : String}
    (message : entry.message = .text text) (shown : entry.text? limit = some s) :
    (s.length : Int) ≤ limit + 3 := by
  have bound := length_cut_le (Int.natCast_nonneg limit) text
  rw [text?_of_text message] at shown
  split at shown
  · rwa [← Option.some.inj shown]
  · rcases cut_short short text with plain | percent
    · rwa [Template.eq_of_fill_plain plain shown]
    · rw [Template.fill_percent _ percent] at shown
      cases shown

namespace Journal

variable {calls : List Creation} {component : Component} {name : String}

/-- The lines of an entry that follows some calls for a logger are not longer than the limit of the
latest one and three characters. -/
def KeepsLimit (calls : List Creation) (component : Component) (name : String) (entry : Entry) :
    Prop :=
  ∀ latest, Creation.latest? component name calls = some latest → ∃ lines,
    ((empty.createAll calls).write (Logger.pathOf component name) entry).records =
      (empty.createAll calls).records ++ lines ∧
    ∀ line ∈ lines, (line.message.length : Int) ≤ latest.2 + 3

/-- The lines that an entry comes to have the text that its logger gives it. -/
theorem message_of_mem_added {journal : Journal} {path : String} {logger : Logger} {entry : Entry}
    {line : Record} (found : journal.find? path = some logger)
    (member : line ∈ journal.added path entry) :
    entry.text? logger.limit = some line.message := by
  rw [added, found] at member
  dsimp only at member
  split at member
  · cases member
  · obtain ⟨made, recorded, copied⟩ := List.mem_flatMap.mp member
    obtain ⟨message, text, -, -, rfl⟩ := record?_eq_some_iff.mp (Option.mem_toList.mp recorded)
    rw [List.eq_of_mem_replicate copied, text]

/-- The lines of an entry keep to the limit where its text does. -/
theorem keepsLimit_of_text {entry : Entry} (bounded : ∀ first latest message,
      Creation.first? component name calls = some first →
      Creation.latest? component name calls = some latest →
      entry.text? first.2 = some message → (message.length : Int) ≤ latest.2 + 3) :
    KeepsLimit calls component name entry := by
  intro latest given
  obtain ⟨logger, there, rfl, rfl⟩ := mem_createAll_of_given given
  obtain ⟨first, last, begun, ended, limit, -⟩ := given_of_mem_createAll there
  obtain rfl := Option.some.inj (given.symm.trans ended)
  have found := (distinct_createAll calls).find?_eq_some_iff.mpr ⟨there, rfl⟩
  refine ⟨(empty.createAll calls).added _ entry, by rw [write_eq], fun line member => ?_⟩
  have text := message_of_mem_added found member
  rw [limit] at text
  exact bounded first latest line.message begun given text

/-- A text that goes beyond the limit is written where the entry is not below its logger. -/
theorem length_le_of_keepsLimit {first latest : Level × Int}
    (begun : Creation.first? component name calls = some first)
    (given : Creation.latest? component name calls = some latest) {text : Value}
    {arguments : List Value} {message : String}
    (keeps : KeepsLimit calls component name
      { level := latest.1.number, message := text, arguments })
    (shown : ({ level := latest.1.number, message := text, arguments } : Entry).text? first.2 =
      some message) : (message.length : Int) ≤ latest.2 + 3 := by
  obtain ⟨lines, written, bounded⟩ := keeps latest given
  obtain ⟨logger, there, rfl, rfl⟩ := mem_createAll_of_given given
  obtain ⟨_, _, begun', ended, limit, level⟩ := given_of_mem_createAll there
  obtain rfl := Option.some.inj (begun.symm.trans begun')
  obtain rfl := Option.some.inj (given.symm.trans ended)
  rw [← limit] at shown
  have bare : Entry.Shown { level := latest.1.number, message := text, arguments } :=
    ⟨by simp, fun key value found => by simp at found⟩
  have enabled : (logger.level.number : Int) ≤ latest.1.number := Int.le_of_eq (by rw [level])
  obtain ⟨count, record, same, told, -, -, -⟩ :=
    (emits (distinct_createAll calls) there _).lines enabled bare message shown
  rw [← Logger.path, same, List.append_cancel_left_eq] at written
  rw [← told]
  exact bounded record (written ▸ List.mem_replicate.mpr ⟨by omega, rfl⟩)

/-- A text of some length. -/
def letters (n : Nat) : String := String.ofList (List.replicate n 'a')

theorem length_letters (n : Nat) : (letters n).length = n := by
  rw [letters, String.length_ofList, List.length_replicate]

section Necessary

variable {first latest : Level × Int} (begun : Creation.first? component name calls = some first)
  (given : Creation.latest? component name calls = some latest)

include begun given

/-- Messages without arguments go beyond the limit where the first one is above it or negative. -/
theorem limit_of_keepsLimit (keeps : ∀ entry text, entry.message = .text text →
      entry.arguments = [] → KeepsLimit calls component name entry) :
    0 ≤ first.2 ∧ first.2 ≤ latest.2 := by
  have bound (n : Nat) : ((Entry.cut first.2 (letters n)).length : Int) ≤ latest.2 + 3 :=
    length_le_of_keepsLimit begun given (keeps _ (letters n) rfl rfl) rfl
  have positive : 0 ≤ first.2 := by
    by_contra negative
    have long := bound (first.2.natAbs + latest.2.toNat + 1)
    rw [Entry.length_cut_of_lt (by rw [length_letters]; omega), length_letters,
      if_pos (Int.not_le.mp negative)] at long
    omega
  refine ⟨positive, ?_⟩
  by_contra above
  have long := bound (first.2.natAbs + 1)
  rw [Entry.length_cut_of_lt (by rw [length_letters]; omega),
    if_neg (Int.not_lt.mpr positive)] at long
  omega

/-- An argument goes beyond every limit where there is room for its directive. -/
theorem le_one_of_keepsLimit (keeps : ∀ entry text, entry.message = .text text →
      KeepsLimit calls component name entry) : first.2 ≤ 1 := by
  by_contra room
  have whole : Entry.cut first.2 "%s" = "%s" := Entry.cut_of_le (show (2 : Int) ≤ first.2 by omega)
  let entry : Entry :=
    { level := latest.1.number, message := .text "%s"
      arguments := [.text (letters (latest.2.toNat + 4))] }
  have shown : entry.text? first.2 = some (letters (latest.2.toNat + 4)) := by
    rw [Entry.text?_of_text rfl, whole]
    exact Template.fill_text _
  have long := length_le_of_keepsLimit begun given (keeps entry "%s" rfl) shown
  rw [length_letters] at long
  omega

end Necessary

/-- **How long a message is.** All messages keep to the limit of the latest call just if the first
one was not above it and left no room for a directive; the messages without arguments do just if the
first one was not above it. -/
theorem keepsLimit_iff (calls : List Creation) (component : Component) (name : String) :
    ((∀ entry text, entry.message = .text text → KeepsLimit calls component name entry) ↔
      ∀ first latest, Creation.first? component name calls = some first →
        Creation.latest? component name calls = some latest →
        0 ≤ first.2 ∧ first.2 ≤ latest.2 ∧ first.2 ≤ 1) ∧
    ((∀ entry text, entry.message = .text text → entry.arguments = [] →
        KeepsLimit calls component name entry) ↔
      ∀ first latest, Creation.first? component name calls = some first →
        Creation.latest? component name calls = some latest →
        0 ≤ first.2 ∧ first.2 ≤ latest.2) := by
  refine ⟨⟨fun keeps first latest begun given => ?_, fun limits entry text message => ?_⟩,
    ⟨fun keeps first latest begun given => limit_of_keepsLimit begun given keeps,
      fun limits entry text message bare => ?_⟩⟩
  · obtain ⟨positive, below⟩ :=
      limit_of_keepsLimit begun given fun entry text message _ => keeps entry text message
    exact ⟨positive, below, le_one_of_keepsLimit begun given keeps⟩
  · refine keepsLimit_of_text fun first latest s begun given shown => ?_
    obtain ⟨positive, below, short⟩ := limits first latest begun given
    obtain ⟨limit, is⟩ := Int.eq_ofNat_of_zero_le positive
    rw [is] at shown below short
    have bound := Entry.length_text?_le (by omega) message shown
    omega
  · refine keepsLimit_of_text fun first latest s begun given shown => ?_
    obtain ⟨positive, below⟩ := limits first latest begun given
    rw [Entry.text?_of_text message, if_pos bare] at shown
    rw [← Option.some.inj shown]
    have bound := Entry.length_cut_le positive text
    omega

theorem not_keepsLimit :
    let wide : Creation := ⟨.service, "tiles", { component := .service }⟩
    let narrow : Creation := ⟨.service, "tiles", { component := .service, limit := 10 }⟩
    ¬ KeepsLimit [wide, narrow] .service "tiles" (.plain .info (letters 50)) ∧
    ¬ KeepsLimit [narrow] .service "tiles"
      { level := Level.info.number, message := .text "%s", arguments := [.text (letters 50)] } := by
  intro wide narrow
  constructor
  · intro keeps
    have first : Creation.first? .service "tiles" [wide, narrow] = some (.info, 1000) := rfl
    have latest : Creation.latest? .service "tiles" [wide, narrow] = some (.info, 10) := rfl
    have whole : Entry.cut 1000 (letters 50) = letters 50 :=
      Entry.cut_of_le (by rw [length_letters]; decide)
    have long := length_le_of_keepsLimit first latest keeps (congrArg some whole)
    rw [length_letters] at long
    exact absurd long (by decide)
  · intro keeps
    have only : Creation.first? .service "tiles" [narrow] = some (.info, 10) := rfl
    have long := length_le_of_keepsLimit only only keeps (Template.fill_text (letters 50))
    rw [length_letters] at long
    exact absurd long (by decide)

end Journal

end Cartography
