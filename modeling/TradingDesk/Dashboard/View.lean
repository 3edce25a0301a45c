import TradingDesk.Dashboard.Basic
import TradingDesk.Screen.Picture

/-! The dashboard on a screen: a header, a line for each notice, and below them the selected portfolio
beside the toasts and the activity. -/

namespace TradingDesk
namespace Dashboard

open Screen Screen.Picture

structure Palette where
  text : Color
  muted : Color
  accent : Color
  tableHeader : Color
  positive : Color
  negative : Color
  warning : Color

def palette : Theme → Palette
  | .dark =>
    { text := .white, muted := .darkGray, accent := .cyan, tableHeader := .darkGray, positive := .green
      negative := .red, warning := .yellow }
  | .light =>
    { text := .black, muted := .gray, accent := .blue, tableHeader := .gray, positive := .rgb 0 128 0
      negative := .rgb 180 0 0, warning := .rgb 160 100 0 }

def Palette.change (p : Palette) (x : Float) : Color :=
  if 0 ≤ x then p.positive else p.negative

def colored (c : Color) (text : String) : Span :=
  ⟨text, .ofColor c⟩

def bold (c : Color) (text : String) : Span :=
  ⟨text, .boldOf c⟩

/-! The header -/

def statusSpan (c : Connection) (p : Palette) : Span :=
  if c.isConnected then colored p.positive "● Live"
  else if c.isReconnecting then colored p.warning "● Reconnecting"
  else colored p.negative "○ Offline"

def totalSpans (d : Dashboard) (p : Palette) : List Span :=
  match d.portfolios.data? with
  | none => []
  | some portfolios =>
    let m := aggregate portfolios d.prices
    [colored p.text ("Total: " ++ Money.usd m.totalValue ++ "  │ "),
      bold (p.change m.unrealizedPnl)
        ("P&L: " ++ Money.signedUsd m.unrealizedPnl ++ " (" ++ Money.percent m.pnlPercent ++ ")  │ ")]

def keysHelp : String :=
  "  [q] quit [r] retry [t] theme [a] class [←/→] portfolio [d] delete [x] dismiss"

def headerSpans (d : Dashboard) (s : Selections) (p : Palette) : List Span :=
  [bold p.accent "  Investor Desk  │ ", statusSpan d.connection p, ⟨"  │ ", .plain⟩]
    ++ (if d.refreshing || d.portfolios.isLoading then [colored p.muted "⟳ "] else [])
    ++ d.totalSpans p
    ++ [colored p.text (s.assetClass.name ++ "  │ " ++ s.theme.title), colored p.muted keysHelp]

/-! Notices -/

def notices (d : Dashboard) (p : Palette) : List Span :=
  let reconnecting :=
    if d.connection.isReconnecting then
      [colored p.warning (" Reconnecting to live prices (attempt "
        ++ toString d.connection.attempt.toNat ++ ")…")]
    else []
  let halted := ((d.halt.filter HaltStatus.isHalted).map fun h =>
    bold p.negative (" TRADING HALTED" ++ if h.haltReason = "" then "" else ": " ++ h.haltReason)).toList
  let unavailable :=
    if d.pricesUnavailable then
      [colored p.warning " Live prices unavailable – some holdings are shown at cost basis."]
    else []
  let removal := (d.removal.pending?.map fun id =>
    bold p.negative (" Delete portfolio #" ++ toString id.toInt ++ "? [y] confirm  [n] cancel")).toList
  reconnecting ++ halted ++ unavailable ++ removal

/-! The portfolio -/

def card (p : Span) (label : String) (width height : Nat) : Picture :=
  framed (" " ++ label ++ " ") width height fun w _ => [line w [p]]

def cards (d : Dashboard) (p : Palette) (portfolio : Portfolio) (width height : Nat) : Picture :=
  let m := metrics portfolio.holdings d.prices
  let contents :=
    [("Total Value", bold p.text (Money.usd m.totalValue)), ("Total Cost", bold p.text (Money.usd m.totalCost)),
      ("Unrealized P&L", bold (p.change m.unrealizedPnl) (Money.signedUsd m.unrealizedPnl)),
      ("P&L %", bold (p.change m.pnlPercent) (Money.percent m.pnlPercent))]
  let pictures := List.zipWith (fun (label, value) w => card value label w height) contents (shares 4 width)
  pictures.foldl beside (List.replicate height [])

def lastColumn : Nat := 9

/-- The widths of the seven columns, without the blank between two of them. The last column takes what
is left; when there is too little, the other ones are made narrower, the widest first. -/
def columnWidths (width : Nat) : List Nat :=
  let room := width - 6
  let others := room - lastColumn
  let last := min room lastColumn
  if 80 ≤ others then [12, 12, 14, 14, 14, 14, room - 80]
  else if 72 ≤ others then [12, 12] ++ shares 4 (others - 24) ++ [last]
  else shares 6 others ++ [last]

def tableRow (between : Cell) (widths : List Nat) (fields : List Span) : List Cell :=
  (List.intersperse [between] (List.zipWith field widths fields)).flatten

def headings : List String :=
  ["Symbol", "Amount", "Avg Cost", "Price", "Value", "P&L", "P&L %"]

def headingRow (p : Palette) (width : Nat) : List Cell :=
  let background : Style := { background := some p.tableHeader }
  row width { style := background } <|
    tableRow { style := background } (columnWidths width)
      (headings.map fun text => ⟨text, { background with bold := true }⟩)

def holdingRow (c : AssetClass) (p : Palette) (width : Nat) (r : Row) : List Cell :=
  let change := p.change r.pnl
  let price : Span := match r.price with
    | some x => ⟨Money.price x c, .plain⟩
    | none => colored p.muted "—"
  let value := Money.usd r.value
  row width {} <| tableRow {} (columnWidths width)
    [⟨r.symbol, .plain⟩, ⟨Number.fixed 4 r.amount, .plain⟩, ⟨Money.price r.avgBuyPrice c, .plain⟩, price,
      if r.priced then ⟨value, .plain⟩ else colored p.muted value,
      colored change (Money.signedUsd r.pnl), bold change (Money.percent r.pnlPercent)]

def holdingsTitle (d : Dashboard) (portfolio : Portfolio) : String :=
  match d.tickers with
  | .error text => " Holdings – price poll failed: " ++ text ++ " [r] retry "
  | _ => " Holdings (" ++ toString portfolio.holdings.length ++ ") "

def holdingsTable (d : Dashboard) (c : AssetClass) (p : Palette) (portfolio : Portfolio)
    (width height : Nat) : Picture :=
  framed (d.holdingsTitle portfolio) width height fun w _ =>
    headingRow p w :: (rows portfolio.holdings d.prices).map (holdingRow c p w)

def cardHeight : Nat := 3

def noPortfolios : String :=
  "No portfolios yet – create one with `investor-desk portfolios create <name>`."

def portfolioPanel (d : Dashboard) (s : Selections) (p : Palette) (width height : Nat) : Picture :=
  match d.portfolios with
  | .loading => framed " Portfolio " width height fun w _ => [line w [colored p.muted "Loading portfolios…"]]
  | .error text =>
    framed " Portfolio " width height fun w _ =>
      paragraph w [[colored p.negative ("Failed to load portfolios: " ++ text)],
        [colored p.muted "[r] retry"]]
  | .data portfolios =>
    match d.selected? with
    | none => framed " Portfolio " width height fun w _ => paragraph w [[colored p.muted noPortfolios]]
    | some portfolio =>
      let title := " " ++ portfolio.name ++ " (" ++ toString (d.selected + 1) ++ "/"
        ++ toString portfolios.length ++ ") "
      framed title width height fun w h =>
        let upper := min cardHeight h
        d.cards p portfolio w upper ++ d.holdingsTable s.assetClass p portfolio w (h - upper)

/-! Toasts and activity -/

def toastLine (p : Palette) (t : Toast) : Span :=
  match t.level with
  | .success => colored p.positive ("✓ " ++ t.message)
  | .error => colored p.negative ("✗ " ++ t.message)
  | .info => colored p.accent ("ℹ " ++ t.message)

def toastPanel (now : Nat) (s : Session) (p : Palette) (width height : Nat) : Picture :=
  framed " Notifications " width height fun w _ =>
    (s.toasts.visible now).map fun t => line w [toastLine p t]

def mentionsIn (word : List Char) : List Char → Bool
  | [] => word.isEmpty
  | c :: cs => word.isPrefixOf (c :: cs) || mentionsIn word cs

def mentions (word text : String) : Bool :=
  mentionsIn word.toList text.toList

def activityLine (p : Palette) (a : Activity) : Span :=
  let text := a.text
  let color :=
    if mentions "ERROR" text || mentions "HALT" text then p.negative
    else if mentions "alert" text then p.warning
    else p.text
  colored color text

def activityPanel (d : Dashboard) (p : Palette) (width height : Nat) : Picture :=
  framed " Activity " width height fun w h => (d.activity.take h).map fun a => line w [activityLine p a]

/-! The whole screen -/

def headerHeight : Nat := 3
def toastHeight : Nat := 8

/-- The share of the portfolio, in hundredths of the width. -/
def portfolioShare : Nat := 65

def body (now : Nat) (d : Dashboard) (s : Session) (p : Palette) (width height : Nat) : Picture :=
  let left := (width * portfolioShare + 50) / 100
  let right := width - left
  let upper := min toastHeight height
  beside (d.portfolioPanel s.selections p left height)
    (toastPanel now s p right upper ++ d.activityPanel p right (height - upper))

def render (now width height : Nat) (d : Dashboard) (s : Session) : Picture :=
  let p := palette s.selections.theme
  let header := framed " Investor Desk " width headerHeight fun w _ => [line w (d.headerSpans s.selections p)]
  let notices := (d.notices p).map fun n => line width [n]
  let above := header ++ notices
  tall width height (above ++ d.body now s p width (height - above.length))

end Dashboard
end TradingDesk
