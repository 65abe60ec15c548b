import Agenda.Proofs.Render.Headings
import Agenda.Proofs.Render.Page
import Agenda.Proofs.Template.Fill

/-!
# The tags of a page

A page is text between tags. What a user writes, titles and names of speakers, and what the program
writes of times, days and flags, holds no angle bracket, so that the tags are those of the frame
around it (`Page.tags?_columnHtml`). The tags of an event depend on nothing but its kind, its start,
its duration, and whether speakers are named (`Page.columnTags_map_bare`); they are properly nested,
and so are those of a column and of a page (`Page.balanced_columnTags`). Without descriptions, which
may bring markup of their own, the texts of the events thus leave no mark on the tags of a page
(`Page.tags_of_undescribed`).
-/

namespace Agenda

namespace Page

/-! ### Tags of a text -/

/-- The tags of a text when `opened` has been read of a tag that is not closed yet. -/
def tagsFrom? (opened : Option Text) (t : Text) : Option (List Text) :=
  match opened, t with
  | none, [] => some []
  | some _, [] => none
  | none, c :: rest =>
    if c = '<' then tagsFrom? (some ['<']) rest
    else if c = '>' then none
    else tagsFrom? none rest
  | some front, c :: rest =>
    if c = '<' then none
    else if c = '>' then (tagsFrom? none rest).map ((front ++ ['>']) :: ·)
    else tagsFrom? (some (front ++ [c])) rest

/-- The tags of a text in order, without what stands between them. There are none if some angle
bracket is not the first or the last sign of a tag. -/
def tags? (t : Text) : Option (List Text) := tagsFrom? none t

/-- Whether no angle bracket stands in a text. -/
def Unmarked (t : Text) : Prop := ∀ c ∈ t, c ≠ '<' ∧ c ≠ '>'

-- The instance is named, since there is another one, which goes through all characters.
instance (t : Text) : Decidable (Unmarked t) := List.decidableBAll _ t

variable {s t inside : Text} {ts us : List Text}

theorem Unmarked.append (hs : Unmarked s) (ht : Unmarked t) : Unmarked (s ++ t) := by
  intro c hc
  rcases List.mem_append.mp hc with hmem | hmem
  · exact hs c hmem
  · exact ht c hmem

theorem unmarked_of_isDigit (h : ∀ c ∈ t, Text.isDigit c = true) : Unmarked t := by
  intro c hc
  have hdigit := h c hc
  constructor
  · rintro rfl
    exact absurd hdigit (by decide)
  · rintro rfl
    exact absurd hdigit (by decide)

/-- Tags are found piece by piece. -/
theorem tagsFrom?_append {opened : Option Text} (h : tagsFrom? opened s = some ts) (t : Text) :
    tagsFrom? opened (s ++ t) = (tags? t).map (ts ++ ·) := by
  induction s generalizing opened ts with
  | nil =>
    cases opened with
    | none =>
      obtain rfl := Option.some.inj h
      rw [List.nil_append, tags?]
      exact Option.map_id'.symm
    | some front => cases h
  | cons c rest ih =>
    cases opened with
    | none =>
      rw [tagsFrom?] at h
      rw [List.cons_append, tagsFrom?]
      split at h
      · rename_i hc
        rw [if_pos hc, ih h]
      · rename_i hc
        split at h
        · cases h
        · rename_i hc'
          rw [if_neg hc, if_neg hc', ih h]
    | some front =>
      rw [tagsFrom?] at h
      rw [List.cons_append, tagsFrom?]
      split at h
      · cases h
      · rename_i hc
        split at h
        · rename_i hc'
          obtain ⟨others, hothers, rfl⟩ := Option.map_eq_some_iff.mp h
          rw [if_neg hc, if_pos hc', ih hothers, Option.map_map]
          rfl
        · rename_i hc'
          rw [if_neg hc, if_neg hc', ih h]

theorem tags?_append (hs : tags? s = some ts) (ht : tags? t = some us) :
    tags? (s ++ t) = some (ts ++ us) := by
  rw [tags?, tagsFrom?_append hs, ht, Option.map_some]

theorem tags?_flatMap {α : Type} {l : List α} {f : α → Text} {g : α → List Text}
    (h : ∀ a ∈ l, tags? (f a) = some (g a)) : tags? (l.flatMap f) = some (l.flatMap g) := by
  induction l with
  | nil => rfl
  | cons a rest ih =>
    obtain ⟨ha, hrest⟩ := List.forall_mem_cons.mp h
    rw [List.flatMap_cons, List.flatMap_cons]
    exact tags?_append ha (ih hrest)

theorem tags?_of_unmarked (h : Unmarked t) : tags? t = some [] := by
  induction t with
  | nil => rfl
  | cons c rest ih =>
    obtain ⟨hc, hrest⟩ := List.forall_mem_cons.mp h
    rw [tags?, tagsFrom?, if_neg hc.1, if_neg hc.2]
    exact ih hrest

/-- A tag that is being read goes on to its end. -/
theorem tagsFrom?_some_append (h : Unmarked inside) (front : Text) :
    tagsFrom? (some front) (inside ++ ['>']) = some [front ++ inside ++ ['>']] := by
  induction inside generalizing front with
  | nil =>
    have hne : ¬ ('>' = '<') := by decide
    rw [List.nil_append, tagsFrom?, if_neg hne, if_pos rfl, List.append_nil]
    rfl
  | cons c rest ih =>
    obtain ⟨hc, hrest⟩ := List.forall_mem_cons.mp h
    rw [List.cons_append, tagsFrom?, if_neg hc.1, if_neg hc.2, ih hrest, ← List.append_cons]

theorem tags?_tag (h : Unmarked inside) :
    tags? ('<' :: (inside ++ ['>'])) = some ['<' :: (inside ++ ['>'])] := by
  rw [tags?, tagsFrom?, if_pos rfl, tagsFrom?_some_append h]
  rfl

/-! ### Nesting -/

/-- The elements of a page that have an end. -/
def pairedNames : List Text := ["div", "h2", "span", "b"]

/-- What a tag does to the elements that are open. -/
inductive TagRole
  | opens (name : Text)
  | closes (name : Text)
  | other

/-- The name at the front of what a tag holds. -/
def nameAtFront (t : Text) : Text := t.takeWhile fun c => c ≠ ' ' ∧ c ≠ '>'

/-- What a tag does; only elements that have an end are opened. -/
def roleOf (tag : Text) : TagRole :=
  match tag with
  | '<' :: '/' :: rest =>
    if nameAtFront rest ∈ pairedNames then .closes (nameAtFront rest) else .other
  | '<' :: rest => if nameAtFront rest ∈ pairedNames then .opens (nameAtFront rest) else .other
  | _ => .other

/-- The elements that are open behind a tag, innermost first, unless it closes another one than the
innermost. -/
def openAfter (opened : List Text) (tag : Text) : Option (List Text) :=
  match roleOf tag, opened with
  | .opens name, _ => some (name :: opened)
  | .closes name, innermost :: others => if innermost = name then some others else none
  | .closes _, [] => none
  | .other, _ => some opened

def openBehind (opened : List Text) (ts : List Text) : Option (List Text) :=
  ts.foldlM openAfter opened

/-- Whether some tags are properly nested: whatever elements are open in front of them, each of the
tags closes the innermost one or none, and behind them the same elements are open. -/
def Balanced (ts : List Text) : Prop := ∀ opened, openBehind opened ts = some opened

theorem openBehind_cons (opened : List Text) (tag : Text) (ts : List Text) :
    openBehind opened (tag :: ts) = (openAfter opened tag).bind fun next => openBehind next ts :=
  List.foldlM_cons

theorem openBehind_append (opened : List Text) (ts us : List Text) :
    openBehind opened (ts ++ us) = (openBehind opened ts).bind fun next => openBehind next us :=
  List.foldlM_append

theorem balanced_nil : Balanced [] := fun _ => rfl

theorem Balanced.append (hts : Balanced ts) (hus : Balanced us) : Balanced (ts ++ us) := by
  intro opened
  rw [openBehind_append, hts, Option.bind_some, hus]

theorem Balanced.flatMap {α : Type} {l : List α} {g : α → List Text}
    (h : ∀ a ∈ l, Balanced (g a)) : Balanced (l.flatMap g) := by
  induction l with
  | nil => exact balanced_nil
  | cons a rest ih =>
    obtain ⟨ha, hrest⟩ := List.forall_mem_cons.mp h
    rw [List.flatMap_cons]
    exact ha.append (ih hrest)

theorem balanced_singleton {tag : Text} (h : roleOf tag = .other) : Balanced [tag] := by
  intro opened
  have hafter : openAfter opened tag = some opened := by
    simp only [openAfter, h]
  rw [openBehind_cons, hafter]
  rfl

/-- Some tags between the first and the last tag of an element. -/
def enclosed (first : Text) (ts : List Text) (last : Text) : List Text := first :: (ts ++ [last])

theorem Balanced.enclosed (name : Text) {first last : Text} (hfirst : roleOf first = .opens name)
    (hlast : roleOf last = .closes name) (h : Balanced ts) : Balanced (enclosed first ts last) := by
  intro opened
  have hopen : openAfter opened first = some (name :: opened) := by
    simp only [openAfter, hfirst]
  have hclose : openAfter (name :: opened) last = some opened := by
    simp only [openAfter, hlast, if_true]
  rw [Page.enclosed, openBehind_cons, hopen, Option.bind_some, openBehind_append, h,
    Option.bind_some, openBehind_cons, hclose]
  rfl

/-! ### Tags of a column -/

def eventTag (dayMinutes : Int) (event : Event) : Text :=
  "<div class=\"event " ++ event.kind.token ++ "\" style=\"height: " ++
    Text.ofInt (height dayMinutes event) ++ "%;\">"

def dayTag : Text := "<div class=\"day\">"

def speakersTags (event : Event) : List Text :=
  if event.kind = .talk ∧ event.speakers ≠ [] then enclosed "<span>" [] "</span>" else []

/-- The tags around the title and the speakers of an event. -/
def titleTags (event : Event) : List Text :=
  enclosed "<b>" [] "</b>" ++ [("<br>" : Text)] ++ speakersTags event

def eventTags (dayMinutes : Int) (event : Event) : List Text :=
  enclosed (eventTag dayMinutes event)
    (enclosed "<div class=\"title\">" (titleTags event) "</div>" ++
      enclosed "<div class=\"abstract\">" [] "</div>") "</div>"

def pieceTags (dayMinutes : Int) : Piece → List Text
  | .heading _ => enclosed "<h2>" [] "</h2>"
  | .time _ => enclosed "<span class=\"time\">" [] "</span>"
  | .event event => eventTags dayMinutes event

def columnTags (dayMinutes : Int) (day : Day) (events : List Event) : List Text :=
  enclosed dayTag ((columnPieces day events).flatMap (pieceTags dayMinutes)) "</div>"

def pageTags (dayMinutes : Int) (timetable : Timetable) : List Text :=
  timetable.window.days.flatMap fun day => columnTags dayMinutes day (timetable.eventsOn day)

variable {dayMinutes : Int} {event : Event}

theorem roleOf_eventTag : roleOf (eventTag dayMinutes event) = .opens "div" := rfl

theorem balanced_titleTags : Balanced (titleTags event) := by
  refine ((balanced_nil.enclosed "b" rfl rfl).append (balanced_singleton rfl)).append ?_
  rw [speakersTags]
  split
  · exact balanced_nil.enclosed "span" rfl rfl
  · exact balanced_nil

theorem balanced_eventTags : Balanced (eventTags dayMinutes event) := by
  refine Balanced.enclosed "div" roleOf_eventTag rfl (Balanced.append ?_ ?_)
  · exact balanced_titleTags.enclosed "div" rfl rfl
  · exact balanced_nil.enclosed "div" rfl rfl

theorem balanced_pieceTags (piece : Piece) : Balanced (pieceTags dayMinutes piece) := by
  cases piece with
  | heading day => exact balanced_nil.enclosed "h2" rfl rfl
  | time moment => exact balanced_nil.enclosed "span" rfl rfl
  | event event => exact balanced_eventTags

/-- **The tags of a column are properly nested.** -/
theorem balanced_columnTags (day : Day) (events : List Event) :
    Balanced (columnTags dayMinutes day events) :=
  Balanced.enclosed "div" rfl rfl (Balanced.flatMap fun piece _ => balanced_pieceTags piece)

/-! ### Texts between the tags -/

theorem unmarked_heading (day : Day) : Unmarked day.heading := by
  intro c hc
  have hplain := Day.forall_mem_heading (p := fun c => c != '<' && c != '>') (by decide)
    (fun c hdigit => ?_) day c hc
  · simpa only [Bool.and_eq_true, bne_iff_ne] using hplain
  · simpa only [Bool.and_eq_true, bne_iff_ne] using
      unmarked_of_isDigit (t := [c]) (by simpa using hdigit) c (List.mem_singleton_self c)

theorem unmarked_clock (moment : Moment) : Unmarked moment.clock := by
  have hcolon : Unmarked ":" := by decide
  have hpad : ∀ n, Unmarked (Text.padNat 2 n) :=
    fun n => unmarked_of_isDigit fun c hc => Text.isDigit_of_mem_padNat hc
  exact ((hpad _).append hcolon).append (hpad _)

theorem unmarked_ofInt (i : Int) : Unmarked (Text.ofInt i) := by
  have hnumeral : Unmarked (Text.ofNat i.natAbs) :=
    unmarked_of_isDigit fun c hc => Text.isDigit_of_mem_ofNat hc
  rw [Text.ofInt]
  split
  · exact List.forall_mem_cons.mpr ⟨by decide, hnumeral⟩
  · exact hnumeral

theorem unmarked_token (kind : EventKind) : Unmarked kind.token := by
  cases kind <;> decide

theorem unmarked_flag (language : Language) : Unmarked (flag language) := by
  rw [flag]
  split
  · decide
  · split
    · decide
    · decide

/-- **Escaped text holds no angle bracket**, whatever was written. -/
theorem unmarked_htmlFull (t : Text) : Unmarked (Text.htmlFull t) := by
  obtain ⟨hless, hgreater⟩ := Text.bracket_not_mem_htmlFull t
  exact fun c hc => ⟨fun heq => hless (heq ▸ hc), fun heq => hgreater (heq ▸ hc)⟩

/-! ### The tags found on a page -/

theorem tags?_eventTag (dayMinutes : Int) (event : Event) :
    tags? (eventTag dayMinutes event) = some [eventTag dayMinutes event] := by
  have hfirst : ("<div class=\"event " : Text) = '<' :: ("div class=\"event " : Text) := by decide
  have hlast : ("%;\">" : Text) = "%;\"" ++ ['>'] := by decide
  have hfront : Unmarked "div class=\"event " := by decide
  have hmiddle : Unmarked "\" style=\"height: " := by decide
  have hback : Unmarked "%;\"" := by decide
  have htag := tags?_tag ((((hfront.append (unmarked_token event.kind)).append hmiddle).append
    (unmarked_ofInt (height dayMinutes event))).append hback)
  have heq : eventTag dayMinutes event = '<' :: ("div class=\"event " ++ event.kind.token ++
      "\" style=\"height: " ++ Text.ofInt (height dayMinutes event) ++ "%;\"" ++ ['>']) := by
    unfold eventTag
    rw [hfirst, hlast]
    simp only [List.append_assoc, List.cons_append]
  rwa [← heq] at htag

theorem tags?_titleHtml (event : Event) :
    tags? (titleHtml event) = some (enclosed "<b>" [] "</b>" ++ [("<br>" : Text)]) := by
  have hmark : ∀ language, Unmarked (flag language ++ " ") := fun language =>
    (unmarked_flag language).append (by decide)
  have htitle := tags?_of_unmarked (unmarked_htmlFull event.title)
  have hbold : tags? "<b>" = some [("<b>" : Text)] := by decide
  have hends : tags? "</b><br>" = some [("</b>" : Text), ("<br>" : Text)] := by decide
  have hnamed := tags?_append (tags?_append hbold htitle) hends
  unfold titleHtml
  cases event.language with
  | none => exact hnamed
  | some language =>
    have hflag := tags?_append (tags?_of_unmarked (hmark language)) hnamed
    simp only [List.append_assoc] at hflag ⊢
    exact hflag

theorem tags?_speakersHtml (event : Event) :
    tags? (speakersHtml event) = some (speakersTags event) := by
  rw [speakersHtml, speakersTags]
  split
  · have hfirst : tags? "<span>" = some [("<span>" : Text)] := by decide
    have hlast : tags? "</span>" = some [("</span>" : Text)] := by decide
    have hnames := tags?_of_unmarked (unmarked_htmlFull event.speakerLine)
    exact tags?_append (tags?_append hfirst hnames) hlast
  · rfl

/-- The block of an event without a description, with its first tag apart. -/
theorem eventHtml_nil (dayMinutes : Int) (event : Event) :
    eventHtml dayMinutes event [] =
      "\t" ++ (eventTag dayMinutes event ++ ("<div class=\"title\">" ++ (titleHtml event ++
        (speakersHtml event ++ "</div>\n<div class=\"abstract\"></div></div>")))) := by
  have hfirst : ("\t<div class=\"event " : Text) = "\t" ++ "<div class=\"event " := by decide
  have hmiddle : ("%;\"><div class=\"title\">" : Text) = "%;\">" ++ "<div class=\"title\">" := by
    decide
  have hends : ("</div>\n<div class=\"abstract\"></div></div>" : Text) =
      "</div>\n<div class=\"abstract\">" ++ "</div></div>" := by decide
  unfold eventHtml eventTag
  rw [hfirst, hmiddle, hends]
  simp only [List.append_assoc, List.nil_append]

theorem tags?_eventHtml (dayMinutes : Int) (event : Event) :
    tags? (eventHtml dayMinutes event []) = some (eventTags dayMinutes event) := by
  have htab : tags? "\t" = some [] := by decide
  have hopen : tags? "<div class=\"title\">" = some [("<div class=\"title\">" : Text)] := by decide
  have hends : tags? "</div>\n<div class=\"abstract\"></div></div>" =
      some (("</div>" : Text) :: enclosed "<div class=\"abstract\">" [] "</div>" ++
        [("</div>" : Text)]) := by decide
  have htitle := tags?_append hopen (tags?_append (tags?_titleHtml event)
    (tags?_append (tags?_speakersHtml event) hends))
  rw [eventHtml_nil, tags?_append htab (tags?_append (tags?_eventTag dayMinutes event) htitle)]
  simp only [eventTags, titleTags, enclosed, List.append_assoc, List.cons_append, List.nil_append]

section

variable [Converter]

/-- Where there is no description, there is nothing to convert. -/
theorem markup_of_undescribed (h : event.description = none) :
    unconverted? event = none ∧ markup event = [] := by
  have hnone : descriptionHtml event.description = .ok [] := by rw [h]; rfl
  rw [unconverted?, markup, hnone]
  exact ⟨rfl, rfl⟩

theorem tags?_pieceText {piece : Piece} (h : ∀ event ∈ piece.event?, event.description = none) :
    tags? (pieceText dayMinutes piece) = some (pieceTags dayMinutes piece) := by
  cases piece with
  | heading day =>
    have hfirst : tags? "<h2>" = some [("<h2>" : Text)] := by decide
    have hlast : tags? "</h2>" = some [("</h2>" : Text)] := by decide
    exact tags?_append (tags?_append hfirst (tags?_of_unmarked (unmarked_heading day))) hlast
  | time moment =>
    have hfirst : tags? "<span class=\"time\">" = some [("<span class=\"time\">" : Text)] := by
      decide
    have hlast : tags? "</span>" = some [("</span>" : Text)] := by decide
    exact tags?_append (tags?_append hfirst (tags?_of_unmarked (unmarked_clock moment))) hlast
  | event event =>
    have hblock : pieceText dayMinutes (.event event) = eventHtml dayMinutes event [] :=
      congrArg (eventHtml dayMinutes event) (markup_of_undescribed (h event rfl)).2
    exact (congrArg tags? hblock).trans (tags?_eventHtml dayMinutes event)

/-- **The tags of a column of events without descriptions are those of its frame.** -/
theorem tags?_columnHtml (day : Day) {events : List Event}
    (h : ∀ event ∈ events, event.description = none) :
    tags? (Column.html dayMinutes ⟨day, columnPieces day events⟩) =
      some (columnTags dayMinutes day events) := by
  have hpieces : ∀ piece ∈ columnPieces day events, ∀ event ∈ piece.event?,
      event.description = none := by
    intro piece hpiece event hevent
    refine h event ?_
    rw [← filterMap_columnPieces day events]
    exact List.mem_filterMap.mpr ⟨piece, hpiece, hevent⟩
  have hfirst : tags? dayTag = some [dayTag] := by decide
  have hlast : tags? "</div>\n" = some [("</div>" : Text)] := by decide
  exact tags?_append (tags?_append hfirst (tags?_flatMap fun piece hpiece =>
    tags?_pieceText (hpieces piece hpiece))) hlast

/-- Of events without descriptions there is a page, and its tags are those of its frame. -/
theorem exists_ofTimetable {timetable : Timetable}
    (h : ∀ event ∈ timetable.events, event.description = none) (dayMinutes : Int) :
    ∃ html, ofTimetable dayMinutes timetable = .ok html ∧
      tags? html = some (pageTags dayMinutes timetable) := by
  have hconverted : failure? timetable = none := by
    rw [failure?, List.findSome?_eq_none_iff]
    intro event hevent
    exact (markup_of_undescribed (h event ((Timetable.perm_byStart _).mem_iff.mp hevent))).1
  refine ⟨text dayMinutes timetable, ?_, ?_⟩
  · rw [ofTimetable_eq, hconverted]
    rfl
  · rw [text, columns, List.flatMap_map]
    exact tags?_flatMap fun day _ => tags?_columnHtml day fun event hevent =>
      h event ((timetable.mem_eventsOn).mp hevent).1

end

/-! ### Events without their texts -/

/-- An event without the texts that are written for it: of the speakers of a talk is kept only
whether there are any. -/
def bare (event : Event) : Event :=
  { event with
    title := [], description := none, language := none,
    speakers := if event.kind = .talk ∧ event.speakers ≠ [] then [[]] else [] }

/-- Whether two events are of one kind, start together and last equally long, and are both talks
with speakers or neither. Titles, languages and the names of speakers may differ. -/
structure SameOutline (a b : Event) : Prop where
  kind_eq : a.kind = b.kind
  start_eq : a.start = b.start
  duration_eq : a.duration = b.duration
  speakers_iff : a.kind = .talk → (a.speakers = [] ↔ b.speakers = [])

variable {timetable other : Timetable} {day : Day} {events others : List Event}

theorem SameOutline.bare_eq {a b : Event} (h : SameOutline a b) : bare a = bare b := by
  obtain ⟨kind, title, start, duration, description, language, speakers, hend⟩ := a
  obtain ⟨kind', title', start', duration', description', language', speakers', hend'⟩ := b
  obtain ⟨rfl, rfl, rfl, hspeakers⟩ := h
  have hnamed : kind = .talk ∧ speakers ≠ [] ↔ kind = .talk ∧ speakers' ≠ [] :=
    and_congr_right fun htalk => not_congr (hspeakers htalk)
  simp only [bare, hnamed]

theorem map_bare_eq (h : List.Forall₂ SameOutline events others) :
    events.map bare = others.map bare := by
  induction h with
  | nil => rfl
  | cons hfirst _ ih => rw [List.map_cons, List.map_cons, hfirst.bare_eq, ih]

theorem eventTags_bare (dayMinutes : Int) (event : Event) :
    eventTags dayMinutes (bare event) = eventTags dayMinutes event := by
  have htag : eventTag dayMinutes (bare event) = eventTag dayMinutes event := rfl
  have hspeakers : speakersTags (bare event) = speakersTags event := by
    have hkind : (bare event).kind = event.kind := rfl
    rw [speakersTags, speakersTags, hkind]
    by_cases h : event.kind = .talk ∧ event.speakers ≠ []
    · have hbare : (bare event).speakers = [[]] := if_pos h
      rw [if_pos h, hbare, if_pos ⟨h.1, List.cons_ne_nil _ _⟩]
    · have hbare : (bare event).speakers = [] := if_neg h
      rw [if_neg h, hbare, if_neg fun hnamed => hnamed.2 rfl]
  rw [eventTags, eventTags, htag, titleTags, titleTags, hspeakers]

/-- Labels are written alike, too: they are decided by starts and ends. -/
theorem flatMap_eventPieces_map_bare (previous : Option Moment) (events : List Event) :
    (eventPieces previous (events.map bare)).flatMap (pieceTags dayMinutes) =
      (eventPieces previous events).flatMap (pieceTags dayMinutes) := by
  induction events generalizing previous with
  | nil => rfl
  | cons event rest ih =>
    have hstart : (bare event).start = event.start := rfl
    have hfinish : (bare event).finish = event.finish := rfl
    simp only [List.map_cons, eventPieces, hstart, hfinish, List.flatMap_append, List.flatMap_cons,
      ih, pieceTags, eventTags_bare]

/-- **The tags of a column do not depend on the texts of its events.** -/
theorem columnTags_map_bare (dayMinutes : Int) (day : Day) (events : List Event) :
    columnTags dayMinutes day (events.map bare) = columnTags dayMinutes day events := by
  rw [columnTags, columnTags, columnPieces, columnPieces, List.flatMap_cons, List.flatMap_cons,
    flatMap_eventPieces_map_bare]

theorem map_bare_eventsOn (h : timetable.events.map bare = other.events.map bare) (day : Day) :
    (timetable.eventsOn day).map bare = (other.eventsOn day).map bare := by
  have hbare : ∀ t : Timetable, (t.eventsOn day).map bare =
      ((t.events.map bare).filter (·.start.day = day)).mergeSort
        fun a b => a.start.minuteOfDay ≤ b.start.minuteOfDay := by
    intro t
    rw [List.filter_map, Timetable.eventsOn]
    exact List.map_mergeSort fun a _ b _ => rfl
  rw [hbare, hbare, h]

theorem window_eq (h : timetable.events.map bare = other.events.map bare) :
    timetable.window = other.window := by
  have hbare : ∀ events : List Event,
      Window.ofEvents? (events.map bare) = Window.ofEvents? events := by
    intro events
    cases events with
    | nil => rfl
    | cons event rest =>
      have hwindow : ∀ event : Event, Window.ofEvent (bare event) = Window.ofEvent event :=
        fun _ => rfl
      simp only [List.map_cons, Window.ofEvents?, List.map_map, Function.comp_def, hwindow]
  have hsame : Window.ofEvents? timetable.events = Window.ofEvents? other.events := by
    rw [← hbare, h, hbare]
  rw [timetable.isWindow, other.isWindow] at hsame
  exact Option.some.inj hsame

theorem pageTags_eq (h : timetable.events.map bare = other.events.map bare) :
    pageTags dayMinutes timetable = pageTags dayMinutes other := by
  rw [pageTags, pageTags, window_eq h]
  refine List.flatMap_congr fun day _ => ?_
  rw [← columnTags_map_bare, map_bare_eventsOn h, columnTags_map_bare]

/-! ### Counting tags -/

def isEventTag (tag : Text) : Bool := Text.startsWith "<div class=\"event " tag

theorem isEventTag_eventTag (dayMinutes : Int) (event : Event) :
    isEventTag (eventTag dayMinutes event) = true := by
  unfold isEventTag Text.startsWith eventTag
  rw [List.isPrefixOf_iff_prefix, List.append_assoc, List.append_assoc, List.append_assoc]
  exact List.prefix_append _ _

theorem filter_pieceTags (piece : Piece) :
    (pieceTags dayMinutes piece).filter isEventTag =
      (piece.event?.map (eventTag dayMinutes)).toList := by
  cases piece with
  | heading day => rfl
  | time moment => rfl
  | event event =>
    rw [pieceTags, eventTags, enclosed, List.filter_cons_of_pos (isEventTag_eventTag _ _),
      titleTags, speakersTags]
    split
    · rfl
    · rfl

/-- **A column has one event tag for each event**, in their order. -/
theorem filter_columnTags (day : Day) (events : List Event) :
    (columnTags dayMinutes day events).filter isEventTag = events.map (eventTag dayMinutes) := by
  have hpieces : ∀ pieces : List Piece,
      (pieces.flatMap (pieceTags dayMinutes)).filter isEventTag =
        (pieces.filterMap Piece.event?).map (eventTag dayMinutes) := by
    intro pieces
    induction pieces with
    | nil => rfl
    | cons piece rest ih =>
      rw [List.flatMap_cons, List.filter_append, filter_pieceTags, ih, List.filterMap_cons]
      cases piece.event? with
      | none => rfl
      | some event => rfl
  rw [columnTags, enclosed, List.filter_cons_of_neg (by decide), List.filter_append, hpieces,
    filterMap_columnPieces]
  exact List.append_nil _

theorem filter_pageTags (dayMinutes : Int) (timetable : Timetable) :
    (pageTags dayMinutes timetable).filter isEventTag =
      (Timetable.byStart timetable.events).map (eventTag dayMinutes) := by
  rw [← timetable.flatMap_eventsOn_days, List.map_flatMap, pageTags, List.filter_flatMap]
  exact List.flatMap_congr fun day _ => filter_columnTags day _

theorem dayTag_not_mem_pieceTags (piece : Piece) : dayTag ∉ pieceTags dayMinutes piece := by
  cases piece with
  | heading day =>
    rw [pieceTags]
    decide
  | time moment =>
    rw [pieceTags]
    decide
  | event event =>
    have hevent : dayTag ≠ eventTag dayMinutes event := by
      intro heq
      have htag := isEventTag_eventTag dayMinutes event
      rw [← heq] at htag
      exact absurd htag (by decide)
    rw [pieceTags, eventTags, enclosed, List.mem_cons, not_or, titleTags, speakersTags]
    refine ⟨hevent, ?_⟩
    split
    · decide
    · decide

theorem count_columnTags (day : Day) (events : List Event) :
    (columnTags dayMinutes day events).count dayTag = 1 := by
  have hpieces : ((columnPieces day events).flatMap (pieceTags dayMinutes)).count dayTag = 0 := by
    rw [List.count_eq_zero, List.mem_flatMap]
    rintro ⟨piece, -, hmem⟩
    exact dayTag_not_mem_pieceTags piece hmem
  rw [columnTags, enclosed, List.count_cons_self, List.count_append, hpieces]
  rfl

theorem count_pageTags (dayMinutes : Int) (timetable : Timetable) :
    (pageTags dayMinutes timetable).count dayTag = timetable.window.days.length := by
  rw [pageTags]
  induction timetable.window.days with
  | nil => rfl
  | cons day rest ih =>
    rw [List.flatMap_cons, List.count_append, count_columnTags, ih, List.length_cons, Nat.add_comm]

theorem openBehind_pageTags (dayMinutes : Int) (timetable : Timetable) :
    openBehind [] (pageTags dayMinutes timetable) = some [] :=
  Balanced.flatMap (fun day _ => balanced_columnTags day _) []

/-- **Titles, languages and names of speakers bring no markup into a page.** The page of events
without descriptions has only tags of its frame: pages of events with the same outline have the same
tags, whatever is written about the events; the tags are properly nested and none is left open;
there is one column for each day of the window, and one block for each event, in the order of their
starts. -/
theorem tags_of_undescribed [Converter] (dayMinutes : Int) (timetable : Timetable)
    (h : ∀ event ∈ timetable.events, event.description = none) :
    ∃ html ts, ofTimetable dayMinutes timetable = .ok html ∧ tags? html = some ts ∧
      (∀ other : Timetable, (∀ event ∈ other.events, event.description = none) →
        List.Forall₂ SameOutline timetable.events other.events →
          ∃ html, ofTimetable dayMinutes other = .ok html ∧ tags? html = some ts) ∧
      openBehind [] ts = some [] ∧
      (ts.count dayTag : Int) = timetable.window.dayCount ∧
      ts.filter isEventTag = (Timetable.byStart timetable.events).map (eventTag dayMinutes) ∧
      ts.countP isEventTag = timetable.events.length := by
  have hevents := filter_pageTags dayMinutes timetable
  obtain ⟨html, hhtml, htags⟩ := exists_ofTimetable h dayMinutes
  refine ⟨html, pageTags dayMinutes timetable, hhtml, htags, fun other hother hsame => ?_,
    openBehind_pageTags dayMinutes timetable, ?_, hevents, ?_⟩
  · rw [pageTags_eq (map_bare_eq hsame)]
    exact exists_ofTimetable hother dayMinutes
  · have hpos := Window.dayCount_pos timetable.isWindow
    rw [count_pageTags, timetable.window.length_days]
    omega
  · rw [List.countP_eq_length_filter, hevents, List.length_map]
    exact (Timetable.perm_byStart timetable.events).length_eq

/-- A timetable of a talk over midnight and of breakfast, with a title and the name of a speaker. -/
def namedTimetable (title speaker : Text) : Timetable where
  events := [{ Event.nightWatch with kind := .talk, title, speakers := [speaker] },
    { Event.breakfast with title, speakers := [speaker] }]
  window := ([Event.breakfast].map Window.ofEvent).foldl Window.join (.ofEvent Event.nightWatch)
  isWindow := Window.ofEvents?_cons ..

section

attribute [local instance] Converter.paragraph

theorem tags_of_undescribed_hostile :
    (∀ event ∈ (namedTimetable "Tea" "Ana").events, event.description = none) ∧
      (∀ event ∈ (namedTimetable "</b></div>" "<script>").events, event.description = none) ∧
      List.Forall₂ SameOutline (namedTimetable "Tea" "Ana").events
        (namedTimetable "</b></div>" "<script>").events ∧
      ∃ html hostile ts, ofTimetable 480 (namedTimetable "Tea" "Ana") = .ok html ∧
        tags? html = some ts ∧
        ofTimetable 480 (namedTimetable "</b></div>" "<script>") = .ok hostile ∧
        tags? hostile = some ts ∧
        openBehind [] ts = some [] ∧ (ts.count dayTag : Int) = 2 ∧ ts.countP isEventTag = 2 := by
  have hnone : ∀ title speaker, ∀ event ∈ (namedTimetable title speaker).events,
      event.description = none := by
    intro title speaker
    exact List.forall_mem_cons.mpr ⟨rfl, List.forall_mem_singleton.mpr rfl⟩
  have hsame : List.Forall₂ SameOutline (namedTimetable "Tea" "Ana").events
      (namedTimetable "</b></div>" "<script>").events :=
    .cons ⟨rfl, rfl, rfl, fun _ => by decide⟩ (.cons ⟨rfl, rfl, rfl, fun _ => by decide⟩ .nil)
  obtain ⟨html, ts, hhtml, htags, hother, hopen, hdays, -, hevents⟩ :=
    tags_of_undescribed 480 (namedTimetable "Tea" "Ana") (hnone "Tea" "Ana")
  obtain ⟨hostile, hhostile, htags'⟩ :=
    hother (namedTimetable "</b></div>" "<script>") (hnone _ _) hsame
  exact ⟨hnone _ _, hnone _ _, hsame, html, hostile, ts, hhtml, htags, hhostile, htags', hopen,
    hdays, hevents⟩

end

end Page

end Agenda
