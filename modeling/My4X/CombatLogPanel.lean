/-
**The panel of the combat log.**

The panel shows a few events of the log, and can be scrolled back.  For this it fetches the events
that are shown without scrolling and as many more as it is scrolled back by, and then draws the last
of those it has fetched: the newest events of the log, however far it is scrolled.

Main definitions:

* `My4X.DrawCommand` — what the panel asks the graphics library to draw;
* `My4X.formatCombatEvent` — the text of an event;
* `My4X.LogPanel.logLines`, `My4X.LogPanel.drawCombatLogPanel` — the lines of the panel, and the
  whole of it;
* `My4X.LogPanel.scrolledBack` — the events that a number of places back were the newest ones.

Main results:

* `My4X.LogPanel.logLines_events` — the panel shows the newest events;
* `My4X.LogPanel.scrolls_iff` — **it shows those scrolled back to exactly when they cannot be told
  from the newest ones**.
-/

import My4X.CombatLog
import Mathlib.Data.Rat.Init

set_option relaxedAutoImplicit false
set_option autoImplicit false

namespace My4X

/-! ### Drawing -/

/-- A colour, by its channels. -/
structure Color where
  r : ℕ
  g : ℕ
  b : ℕ
  a : ℕ
  deriving DecidableEq, Repr

/-- A call of the graphics library. -/
inductive DrawCommand
  | rectangleRounded (x y width height : ℤ) (roundness : ℚ) (segments : ℤ) (color : Color)
  | text (text : String) (x y fontSize : ℤ) (color : Color)
  deriving DecidableEq

/-- The text of an event. -/
def formatCombatEvent (event : CombatEvent) : String :=
  if event.isCaptureEvent then
    let capturerLabel :=
      if event.attackerFactionName = "" then "Faction " ++ toString event.attackerFactionId
      else event.attackerFactionName
    capturerLabel ++ " captured " ++ event.capturedCityName
  else
    let attackerLabel :=
      if event.attackerName = "" then "Unit[F" ++ toString event.attackerFactionId ++ "]"
      else event.attackerName
    let defenderLabel :=
      if event.defenderName = "" then "Unit[F" ++ toString event.defenderFactionId ++ "]"
      else event.defenderName
    let attackerLabel :=
      if event.attackerFactionName ≠ "" then
        attackerLabel ++ " (" ++ event.attackerFactionName ++ ")"
      else attackerLabel
    let defenderLabel :=
      if event.defenderFactionName ≠ "" then
        defenderLabel ++ " (" ++ event.defenderFactionName ++ ")"
      else defenderLabel
    let result :=
      attackerLabel ++ " -> " ++ defenderLabel ++ " " ++ toString event.damageToDefender ++ " dmg"
    let result :=
      if 0 < event.damageToAttacker then result ++ ", ctr: " ++ toString event.damageToAttacker
      else result
    let result := if event.defenderDied then result ++ " [KILL]" else result
    if event.attackerDied then result ++ " [DIED]" else result

namespace LogPanel

def logBg : Color := ⟨16, 18, 26, 210⟩

def logHeadingCol : Color := ⟨130, 140, 170, 255⟩

def logTextCol : Color := ⟨190, 190, 200, 255⟩

def logKillCol : Color := ⟨255, 60, 60, 255⟩

def logDimCol : Color := ⟨120, 120, 140, 255⟩

def logCaptureCol : Color := ⟨100, 200, 255, 255⟩

/-- The most events that are shown. -/
def combatLogMaxDisplay : ℕ := 8

def combatLogPanelW : ℤ := 480

def combatLogLineH : ℤ := 18

def combatLogFontSize : ℤ := 13

def combatLogHeadingSize : ℤ := 14

def combatLogPad : ℤ := 10

def combatLogMargin : ℤ := 14

def combatLogHeadingGap : ℤ := 6

/-! ### The panel -/

/-- The number of events that are shown. -/
def displayCount (log : CombatLog) : ℤ := min (log.size : ℤ) combatLogMaxDisplay

def maxScroll (log : CombatLog) : ℤ := max 0 (log.size - displayCount log)

/-- The offset by which the panel is scrolled, inside the log. -/
def clampedScroll (log : CombatLog) (scrollOffset : ℤ) : ℤ :=
  if scrollOffset < 0 then 0
  else if maxScroll log < scrollOffset then maxScroll log
  else scrollOffset

/-- A line of the panel. -/
structure LogLine where
  event : CombatEvent
  x : ℤ
  y : ℤ
  color : Color
  deriving DecidableEq

def LogLine.draw (line : LogLine) : DrawCommand :=
  .text (formatCombatEvent line.event) line.x line.y combatLogFontSize line.color

/-- The colour of the line at an index: dim for the older half, and that of captures and kills. -/
def lineColor (displayCount i : ℤ) (event : CombatEvent) : Color :=
  let textColor := if i < displayCount / 2 then logDimCol else logTextCol
  if event.isCaptureEvent then logCaptureCol
  else if event.defenderDied || event.attackerDied then logKillCol
  else textColor

/-- The loop over the lines; an index outside of the fetched events is passed over. -/
def drawEvents (events : List CombatEvent) (startIdx displayCount x : ℤ) :
    List ℕ → ℤ → List LogLine
  | [], _ => []
  | i :: is, y =>
      let eventIdx := startIdx + i
      if eventIdx < 0 ∨ (events.length : ℤ) ≤ eventIdx then
        drawEvents events startIdx displayCount x is y
      else
        let event := events.getD eventIdx.toNat {}
        { event, x, y, color := lineColor displayCount i event } ::
          drawEvents events startIdx displayCount x is (y + combatLogLineH)

/-- The lines of the panel, the first of them at a place. -/
def logLines (log : CombatLog) (scrollOffset x y : ℤ) : List LogLine :=
  let fetchCount := displayCount log + clampedScroll log scrollOffset
  let events := log.recentEvents fetchCount.toNat
  let startIdx := events.length - displayCount log
  drawEvents events startIdx (displayCount log) x (List.range (displayCount log).toNat) y

/-- The panel: its background, its heading with a hint that it can be scrolled on, and its lines. -/
def drawCombatLogPanel (measureText : String → ℤ → ℤ) (log : CombatLog)
    (screenWidth screenHeight scrollOffset : ℤ) : List DrawCommand :=
  if log.empty then []
  else
    let panelH := combatLogPad * 2 + combatLogHeadingSize + combatLogHeadingGap +
      displayCount log * combatLogLineH
    let panelX := screenWidth - combatLogPanelW - combatLogMargin
    let panelY := screenHeight - panelH - combatLogMargin
    let x := panelX + combatLogPad
    let y := panelY + combatLogPad
    let hint :=
      if clampedScroll log scrollOffset < maxScroll log then
        [DrawCommand.text "^ scroll"
          (panelX + combatLogPanelW - combatLogPad - measureText "^ scroll" 12) y 12 logDimCol]
      else []
    .rectangleRounded panelX panelY combatLogPanelW panelH (4 / 100) 6 logBg ::
      .text "COMBAT LOG" x y combatLogHeadingSize logHeadingCol ::
      hint ++
      (logLines log scrollOffset x (y + combatLogHeadingSize + combatLogHeadingGap)).map
        LogLine.draw

/-! ### What it shows -/

/-- The loop draws the fetched events from its start on. -/
theorem drawEvents_events {events : List CombatEvent} (start : ℕ) (displayCount x : ℤ)
    (is : List ℕ) : ∀ y, (∀ i ∈ is, start + i < events.length) →
      (drawEvents events start displayCount x is y).map (·.event) =
        is.map fun i => events.getD (start + i) {} := by
  induction is with
  | nil => intro y _; rfl
  | cons i is ih =>
      intro y his
      have hi := his i List.mem_cons_self
      rw [drawEvents]
      dsimp only
      rw [if_neg (by omega), List.map_cons, List.map_cons,
        ih _ fun j hj => his j (List.mem_cons_of_mem i hj)]
      congr 1

theorem displayCount_eq (log : CombatLog) :
    displayCount log = (min log.size combatLogMaxDisplay : ℕ) := by
  rw [displayCount]
  omega

/-- The offset never leads out of the log. -/
theorem clampedScroll_add_le (log : CombatLog) (scrollOffset : ℤ) :
    0 ≤ clampedScroll log scrollOffset ∧
      displayCount log + clampedScroll log scrollOffset ≤ log.size := by
  have hle : displayCount log ≤ log.size := by
    rw [displayCount]
    omega
  rw [clampedScroll, maxScroll]
  split
  · omega
  · split
    · omega
    · omega

/-- **The panel shows the newest events**, however far it is scrolled. -/
theorem logLines_events (log : CombatLog) (scrollOffset x y : ℤ) :
    (logLines log scrollOffset x y).map (·.event) =
      log.allEvents.rtake (min log.size combatLogMaxDisplay) := by
  obtain ⟨hscroll, hle⟩ := clampedScroll_add_le log scrollOffset
  obtain ⟨s, hs⟩ := Int.eq_ofNat_of_zero_le hscroll
  rw [logLines, displayCount_eq, hs]
  rw [displayCount_eq, hs] at hle
  generalize min log.size combatLogMaxDisplay = d at hle ⊢
  -- of the `d + s` events that are fetched, the last `d`
  have hfetch : ((d : ℤ) + s).toNat = d + s := by omega
  have hfetched : (log.recentEvents (d + s)).length = d + s := by
    rw [CombatLog.recentEvents, List.length_map, List.length_range]
    change min (d + s) log.size = d + s
    omega
  rw [hfetch, hfetched, show ((d + s : ℕ) : ℤ) - (d : ℤ) = (s : ℕ) by omega,
    drawEvents_events s d x (List.range (d : ℤ).toNat) y fun i hi => by
      rw [List.mem_range] at hi
      omega]
  have hsize := log.allEvents_length
  change log.allEvents.length = log.size at hsize
  refine List.ext_getElem? fun i => ?_
  rw [List.getElem?_map, List.rtake, List.getElem?_drop, Int.toNat_natCast]
  by_cases hi : i < d
  · rw [List.getElem?_range hi, Option.map_some, log.recentEvents_eq, List.getD_eq_getElem?_getD,
      List.rtake, List.getElem?_drop, List.getElem?_eq_getElem (by omega), Option.getD_some,
      List.getElem?_eq_getElem (by omega)]
    congr 2
    omega
  · rw [List.getElem?_eq_none (by rw [List.length_range]; omega),
      List.getElem?_eq_none (by omega)]
    rfl

/-- The offset that takes effect: the panel is not scrolled beyond the oldest event. -/
def effectiveScroll (log : CombatLog) (scroll : ℕ) : ℕ :=
  min scroll (log.size - min log.size combatLogMaxDisplay)

/-- **The events scrolled back to**: those that were the newest ones so many events ago. -/
def scrolledBack (log : CombatLog) (scroll : ℕ) : List CombatEvent :=
  (log.allEvents.drop (log.size - scroll - min log.size combatLogMaxDisplay)).take
    (min log.size combatLogMaxDisplay)

/-- **The panel shows the events scrolled back to exactly when it is not scrolled, or when these
cannot be told from the newest ones.** -/
theorem scrolls_iff (log : CombatLog) (scroll : ℕ) (x y : ℤ) :
    (logLines log scroll x y).map (·.event) = scrolledBack log (effectiveScroll log scroll) ↔
      effectiveScroll log scroll = 0 ∨
        ∀ i < min log.size combatLogMaxDisplay,
          log.allEvents[log.size - min log.size combatLogMaxDisplay + i]? =
            log.allEvents[log.size - effectiveScroll log scroll -
              min log.size combatLogMaxDisplay + i]? := by
  rw [logLines_events, scrolledBack]
  have hsize := log.allEvents_length
  change log.allEvents.length = log.size at hsize
  have hle : effectiveScroll log scroll ≤ log.size - min log.size combatLogMaxDisplay :=
    Nat.min_le_right _ _
  have hdisplay : min log.size combatLogMaxDisplay ≤ log.size := Nat.min_le_left _ _
  generalize min log.size combatLogMaxDisplay = d at hle hdisplay ⊢
  generalize effectiveScroll log scroll = s at hle ⊢
  constructor
  · intro h
    refine Or.inr fun i hi => ?_
    have hi' := congrArg (·[i]?) h
    rw [List.rtake, List.getElem?_drop, List.getElem?_take, if_pos hi, List.getElem?_drop,
      hsize] at hi'
    exact hi'
  · rintro (rfl | h)
    · rw [List.rtake, hsize, List.take_of_length_le (by rw [List.length_drop]; omega), Nat.sub_zero]
    · refine List.ext_getElem? fun i => ?_
      rw [List.rtake, List.getElem?_drop, List.getElem?_take, hsize]
      split
      · next hi => rw [List.getElem?_drop, h i hi]
      · rw [List.getElem?_eq_none (by omega)]

/-- A log of nine events. -/
def nineEvents : CombatLog :=
  ((List.range 9).map fun i : ℕ => CombatLog.LogOp.append { turn := i }).foldl CombatLog.apply
    (CombatLog.create 20 (by decide))

/-- Scrolled back by one event it still shows the newest eight. -/
theorem nineEvents_not_scrolled :
    effectiveScroll nineEvents 1 = 1 ∧
      (logLines nineEvents 1 0 0).map (·.event.turn) = [1, 2, 3, 4, 5, 6, 7, 8] ∧
      (scrolledBack nineEvents 1).map (·.turn) = [0, 1, 2, 3, 4, 5, 6, 7] ∧
      (logLines nineEvents 1 0 0).map (·.event) ≠
        scrolledBack nineEvents (effectiveScroll nineEvents 1) := by
  refine ⟨by decide, by decide, by decide, by decide⟩

end LogPanel

end My4X
