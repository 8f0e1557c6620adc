import Handbook.Proofs.Fault.Characters
import Handbook.Proofs.Layout.TamePages

/-!
# Faults in all colors

Whether a fault is colorful does not show in what is printed of it, as long as drawings
are laid out by their characters. The page lays out by their characters all drawings of
tame texts, which are those that hold no character tied to another one, and no style that
cannot be read.
-/

namespace Handbook

namespace Drawing

variable {drawing : Drawing}

/-- A drawing of tame texts. -/
structure IsTame (drawing : Drawing) : Prop where
  header : drawing.header.IsTame
  body : ∀ text ∈ drawing.body, text.IsTame

/-- A drawing of tame texts is laid out by its characters. -/
theorem IsTame.printed_lines (tame : drawing.IsTame) :
    Layout.printed drawing.lines = Layout.printed drawing.unstyled.lines := by
  unfold lines
  change _ = Layout.printed (if drawing.framed then _ else _)
  split
  · exact (Layout.printed_panel_unstyled tame.header tame.body).symm
  · exact (Layout.printed_bare_unstyled
      (List.forall_mem_cons.mpr ⟨tame.header, tame.body⟩)).symm

end Drawing

namespace Style

variable {word : Text} {words : List Text}

/-! ## Styles that mix no colour -/

/-- A word that mixes no colour is a colour or not, and never fails to be read. -/
theorem exists_isColor_eq_ok (unmixed : bracketed? "rgb(" word = none) :
    ∃ found, isColor word = .ok found := by
  unfold isColor
  rw [unmixed]
  exact ⟨_, rfl⟩

/-- Words of which none mixes a colour can be read. -/
theorem read_eq_ok
    (unmixed : ∀ word ∈ words, bracketed? "rgb(" (Text.lowerCase word) = none) :
    read words = .ok () := by
  -- Every branch reads at most the words that are left, after at most one colour.
  fun_induction read words with
  | case1 | case5 => rfl
  | case2 last =>
      obtain ⟨found, colored⟩ := exists_isColor_eq_ok (unmixed last List.mem_cons_self)
      rw [colored]
      rfl
  | case3 first second rest _ _ hypothesis =>
      obtain ⟨_, unmixedSecond, unmixedRest⟩ := by
        simpa only [List.forall_mem_cons] using unmixed
      obtain ⟨found, colored⟩ := exists_isColor_eq_ok unmixedSecond
      rw [colored]
      cases found with
      | false => rfl
      | true => exact hypothesis unmixedRest
  | case4 first second rest _ _ _ _ hypothesis | case6 first second rest _ _ _ _ hypothesis =>
      exact hypothesis fun word member =>
        unmixed word (List.mem_cons_of_mem _ (List.mem_cons_of_mem _ member))
  | case7 first second rest _ _ _ _ _ hypothesis =>
      exact hypothesis fun word member => unmixed word (List.mem_cons_of_mem _ member)
  | case8 first second rest _ _ _ _ _ hypothesis =>
      obtain ⟨unmixedFirst, unmixedRest⟩ := List.forall_mem_cons.mp unmixed
      obtain ⟨found, colored⟩ := exists_isColor_eq_ok unmixedFirst
      rw [colored]
      cases found with
      | false => rfl
      | true => exact hypothesis unmixedRest

/-- Whether a word ends, in lower case, in something else than a closing bracket. -/
def endsOpen (word : Text) : Bool :=
  word.getLast?.any fun last => (Text.lowerCharacter last).getLast?.any (· ≠ ')')

theorem bracketed?_eq_none {name : Text} (ends : word.getLast? ≠ some ')') :
    bracketed? name word = none := by
  unfold bracketed?
  refine if_neg fun found => ends ?_
  rw [Bool.and_eq_true, beq_iff_eq] at found
  rw [found.1]
  exact List.getLast?_concat

/-- A word in lower case ends as the lower case of its last character does. -/
theorem getLast?_lowerCase
    {front : Text}
    {last lowered : Char}
    (ends : (Text.lowerCharacter last).getLast? = some lowered) :
    (Text.lowerCase (front ++ [last])).getLast? = some lowered := by
  rw [Text.lowerCase, List.flatMap_append, List.flatMap_singleton, List.getLast?_append, ends]
  rfl

/-- A style whose words all end in something else than a closing bracket can be read. -/
theorem lookUp_eq_ok {text : Text} (opened : ∀ word ∈ wordsOf text, endsOpen word = true) :
    lookUp (.str text) = .ok () := by
  refine read_eq_ok fun word member => bracketed?_eq_none ?_
  obtain ⟨last, isLast, ends⟩ := (Option.any_eq_true _ _).mp (opened word member)
  obtain ⟨lowered, isLowered, different⟩ := (Option.any_eq_true _ _).mp ends
  obtain ⟨front, rfl⟩ := List.getLast?_eq_some_iff.mp isLast
  rw [getLast?_lowerCase isLowered]
  exact fun same => of_decide_eq_true different (Option.some.inj same)

/-- The styles that every class of faults has of its own can be read. -/
theorem lookUp_palette (kind : FaultClass) :
    ∀ entry ∈ kind.palette, lookUp (.str entry.2) = .ok () := by
  -- Looking a character up in an array is slow to evaluate; in a list it is not.
  have opened : ∀ entry ∈ errorPalette ++ warningPalette, ∀ word ∈ wordsOf entry.2,
      endsOpen word = true := by
    simp only [endsOpen, Text.lowerCharacter, Text.mapCase, ← Array.find?_toList]
    decide +kernel
  intro entry member
  refine lookUp_eq_ok (opened entry ?_)
  unfold FaultClass.palette at member
  split at member
  · exact List.mem_append_right _ member
  · exact List.mem_append_left _ member

end Style

namespace Fault

variable {fault : Fault} {host : Host} {value style : Value}

/-! ## Tame faults -/

/-- A style that can be read, if it counts. -/
def CanBeRead (style : Value) : Prop :=
  style.truthy = true → Style.lookUp style = .ok ()

/-- A value that brings no style of its own, or one that can be read. -/
def BringsReadable (value : Value) : Prop :=
  ∀ plain own, value = .styled plain own → CanBeRead own

/-- A fault that is drawn with tame texts: the styles of its palette can be read, as can those that
the program's name and the hint bring with them, and no character that is shown is tied to another
one. -/
structure IsTame (fault : Fault) (host : Host) : Prop where
  palette : ∀ table, styleTable host fault.kind = .ok table →
    ∀ entry ∈ table, CanBeRead entry.2
  prog : BringsReadable fault.options.prog
  hint : BringsReadable fault.options.hint
  untied : ∀ drawing, fault.plainDrawing host = .ok drawing →
    ∀ text ∈ drawing.header :: drawing.body, text.plain.Untied

theorem canBeRead_empty : CanBeRead (.str []) :=
  nofun

theorem canBeRead_style
    {table : List (Text × Value)}
    (palette : ∀ entry ∈ table, CanBeRead entry.2)
    (name : Text) :
    CanBeRead (fault.style table name) := by
  unfold style styleIn
  split
  · split
    · next entry found => exact palette entry (List.mem_of_find?_eq_some found)
    · exact canBeRead_empty
  · exact canBeRead_empty

/-- A part is readable when its style is, and that which its value brings. -/
theorem isReadable_part (brings : BringsReadable value) (canBeRead : CanBeRead style) :
    (fault.part value style).IsReadable := by
  unfold part
  split
  · exact ⟨nofun, nofun⟩
  · split
    · exact ⟨nofun, nofun⟩
    · split
      · exact ⟨brings _ _ rfl, nofun⟩
      · exact ⟨canBeRead, nofun⟩

theorem bringsReadable_codeValue {code : Value} (labelled : fault.codeValue host = .ok code) :
    BringsReadable code := by
  unfold codeValue at labelled
  split at labelled
  · cases labelled
    exact nofun
  · split at labelled
    · cases labelled
    · cases labelled
      exact nofun

theorem bringsReadable_titleValue {title : Value} (titled : fault.titleValue = .ok title) :
    BringsReadable title := by
  unfold titleValue at titled
  split at titled <;> cases titled <;> exact nofun

theorem bringsReadable_messageValue (fault : Fault) : BringsReadable fault.messageValue := by
  unfold messageValue
  split <;> exact nofun

theorem IsTame.colored (tame : fault.IsTame host) (colorful : Value) :
    (fault.colored colorful).IsTame host :=
  ⟨tame.palette, tame.prog, tame.hint, tame.untied⟩

/-- A tame fault is drawn with tame texts. -/
theorem IsTame.drawing
    {drawing : Drawing}
    (tame : fault.IsTame host)
    (drawn : fault.drawing host = .ok drawing) :
    drawing.IsTame := by
  have untied : ∀ text ∈ drawing.header :: drawing.body, text.plain.Untied := by
    have plain : fault.plainDrawing host = .ok drawing.unstyled := by
      rw [← map_unstyled_drawing, drawn]
      rfl
    intro text member
    exact tame.untied _ plain text.unstyled (List.mem_map_of_mem member)
  obtain ⟨table, tabled, afterTable⟩ := exists_of_bind_eq_ok drawn
  obtain ⟨code, labelled, afterCode⟩ := exists_of_bind_eq_ok afterTable
  obtain ⟨title, titled, isDrawing⟩ := exists_of_bind_eq_ok afterCode
  cases isDrawing
  obtain ⟨untiedHeader, untiedBody⟩ := List.forall_mem_cons.mp untied
  have styles : ∀ name, CanBeRead (fault.style table name) :=
    canBeRead_style (tame.palette table tabled)
  constructor
  · refine ⟨StyledText.isReadable_assemble fun part member => ?_, untiedHeader⟩
    simp only [List.mem_cons, List.not_mem_nil, or_false] at member
    rcases member with rfl | rfl | rfl | rfl | rfl | rfl | rfl
    · exact ⟨nofun, nofun⟩
    · exact isReadable_part tame.prog (styles _)
    · exact ⟨nofun, nofun⟩
    · exact isReadable_part (bringsReadable_codeValue labelled) (styles _)
    · exact ⟨nofun, nofun⟩
    · exact isReadable_part (bringsReadable_titleValue titled) (styles _)
    · exact ⟨nofun, nofun⟩
  · intro text member
    refine ⟨?_, untiedBody text member⟩
    rcases List.mem_cons.mp member with rfl | isHint
    · exact isReadable_part (bringsReadable_messageValue fault) (styles _)
    · split at isHint
      · rw [List.mem_singleton.mp isHint]
        refine StyledText.isReadable_assemble fun part member => ?_
        simp only [List.mem_cons, List.not_mem_nil, or_false] at member
        rcases member with rfl | rfl
        · exact isReadable_part nofun (styles _)
        · exact isReadable_part tame.hint (styles _)
      · cases isHint

/-- The page lays out the drawings of a tame fault by their characters. -/
theorem IsTame.laidOutByCharacters (tame : fault.IsTame host) :
    fault.LaidOutByCharacters (fun drawing => Layout.printed drawing.lines) host :=
  fun colorful _ drawn => ((tame.colored colorful).drawing drawn).printed_lines

/-! ## Colorful and plain faults -/

/-- A fault that is printed in shell mode shows the same text, or fails in the same way, whether it
is colorful or not, plainly set or inside a panel, under every host: with every layout that sets
drawings by their characters, and on the page itself if all texts of the fault are tame. -/
theorem surface_same_in_all_colors
    (fault : Fault)
    (host : Host)
    (shell : fault.options.shell.truthy = true)
    (first second : Value) :
    (∀ layOut, ByCharacters layOut →
      (fault.colored first).surfaceBy layOut host =
        (fault.colored second).surfaceBy layOut host) ∧
      (fault.IsTame host →
        (fault.colored first).surface host = (fault.colored second).surface host) := by
  constructor
  · intro layOut byCharacters
    exact surfaceBy_colored (fun _ drawing _ => byCharacters drawing) shell first second
  · intro tame
    rw [surface_eq_surfaceBy, surface_eq_surfaceBy]
    exact surfaceBy_colored tame.laidOutByCharacters shell first second

/-- An unknown command in a panel, with a hint, and with one style in the host's palette. -/
theorem surface_same_in_all_colors_of_panel :
    let host : Host := { styles := .dict [(.str "hint", .str "bold red")] }
    let fault : Fault :=
      { kind := .unknownCommand
        message := some "'sede' is not a bx command."
        options :=
          { prog := .str "bx"
            code := .code .unknownCommand
            title := .str "typo"
            hint := .styled "did you mean 'seed'?" (.str "italic")
            shell := .bool true
            fancy := .bool true } }
    let layOut : Drawing → Aftermath Text :=
      fun drawing => Layout.printed drawing.unstyled.lines
    fault.options.shell.truthy = true ∧ ByCharacters layOut ∧ fault.IsTame host ∧
      (fault.colored (.bool true)).surfaceBy layOut host =
        (fault.colored (.bool false)).surfaceBy layOut host ∧
      (fault.colored (.bool true)).surface host = (fault.colored (.bool false)).surface host := by
  intro host fault layOut
  have byCharacters : ByCharacters layOut := fun drawing => by
    rw [show layOut = fun drawing => Layout.printed drawing.unstyled.lines from rfl]
    dsimp only
    rw [Drawing.unstyled_unstyled]
  have opened : ∀ text ∈ ["bold red".toList, "italic".toList], ∀ word ∈ Style.wordsOf text,
      Style.endsOpen word = true := by
    simp only [Style.endsOpen, Text.lowerCharacter, Text.mapCase, ← Array.find?_toList]
    decide +kernel
  have readable : ∀ text ∈ ["bold red".toList, "italic".toList],
      Style.lookUp (.str text) = .ok () :=
    fun text member => Style.lookUp_eq_ok (opened text member)
  have tame : fault.IsTame host := by
    refine ⟨?palette, nofun, ?hint, ?untied⟩
    case palette =>
      intro table tabled entry member _
      cases tabled
      rcases List.mem_append.mp member with ofHost | ofClass
      · have ownHint : entry = (("hint" : Text), Value.str "bold red") :=
          List.mem_singleton.mp ofHost
        rw [ownHint]
        exact readable "bold red" List.mem_cons_self
      · obtain ⟨builtIn, inPalette, rfl⟩ := List.mem_map.mp ofClass
        exact Style.lookUp_palette _ builtIn inPalette
    case hint =>
      intro plain own isHint _
      cases isHint
      exact readable "italic" (List.mem_cons_of_mem _ List.mem_cons_self)
    case untied =>
      intro drawing drawn
      cases drawn
      decide +kernel
  have shell : fault.options.shell.truthy = true := rfl
  obtain ⟨laidOut, printed⟩ :=
    surface_same_in_all_colors fault host shell (.bool true) (.bool false)
  exact ⟨shell, byCharacters, tame, laidOut layOut byCharacters, printed tame⟩

end Fault
end Handbook
