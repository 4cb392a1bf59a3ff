/-! Icons that generated tabs may show. Any other name gives the fallback, so every import resolves. -/
namespace ApiScreens.Icon

def known : List String :=
  ["TableProperties", "Table", "FileText", "ChartPie", "Users", "Building", "ShoppingCart",
   "UserCheck", "Package", "ShoppingBag", "PackageCheck", "Calendar", "ClipboardList", "Wrench",
   "Settings", "Activity", "History"]

def fallback : String := "TableProperties"

def usable (icon : String) : String := if icon ∈ known then icon else fallback

end ApiScreens.Icon
