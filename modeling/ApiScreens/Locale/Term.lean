import ApiScreens.Locale.Phrase

/-! Terms with a fixed wording: those that the last part of a key may be, and those that stand in module
and tab names. -/
namespace ApiScreens.Locale

def keyTerms : List (String × Phrase) :=
  [("register", ⟨"등록", "Register"⟩), ("edit", ⟨"수정", "Edit"⟩),
   ("delete", ⟨"삭제", "Delete"⟩), ("save", ⟨"저장", "Save"⟩), ("cancel", ⟨"취소", "Cancel"⟩),
   ("confirm", ⟨"확인", "Confirm"⟩), ("close", ⟨"닫기", "Close"⟩),
   ("search", ⟨"검색", "Search"⟩), ("reset", ⟨"초기화", "Reset"⟩), ("add", ⟨"추가", "Add"⟩),
   ("remove", ⟨"제거", "Remove"⟩), ("copy", ⟨"복사", "Copy"⟩), ("print", ⟨"인쇄", "Print"⟩),
   ("export", ⟨"내보내기", "Export"⟩), ("import", ⟨"가져오기", "Import"⟩),
   ("list", ⟨"목록", "List"⟩), ("status", ⟨"현황", "Status"⟩),
   ("detailList", ⟨"상세 목록", "Detail List"⟩),
   ("overallStatus", ⟨"전체 현황", "Overall Status"⟩), ("analysis", ⟨"분석", "Analysis"⟩),
   ("summary", ⟨"요약", "Summary"⟩), ("detail", ⟨"상세", "Detail"⟩),
   ("info", ⟨"정보", "Information"⟩), ("management", ⟨"관리", "Management"⟩),
   ("today", ⟨"오늘", "Today"⟩), ("yesterday", ⟨"어제", "Yesterday"⟩),
   ("thisWeek", ⟨"이번 주", "This Week"⟩), ("thisMonth", ⟨"이번 달", "This Month"⟩),
   ("thisYear", ⟨"올해", "This Year"⟩), ("recent", ⟨"최근", "Recent"⟩),
   ("active", ⟨"활성", "Active"⟩), ("inactive", ⟨"비활성", "Inactive"⟩),
   ("pending", ⟨"대기", "Pending"⟩), ("completed", ⟨"완료", "Completed"⟩),
   ("cancelled", ⟨"취소됨", "Cancelled"⟩), ("draft", ⟨"임시저장", "Draft"⟩),
   ("loading", ⟨"로딩 중...", "Loading..."⟩),
   ("noData", ⟨"데이터가 없습니다", "No Data Available"⟩),
   ("error", ⟨"오류가 발생했습니다", "An Error Occurred"⟩), ("success", ⟨"성공했습니다", "Success"⟩),
   ("failed", ⟨"실패했습니다", "Failed"⟩), ("required", ⟨"필수 항목입니다", "Required"⟩),
   ("optional", ⟨"선택 항목입니다", "Optional"⟩)]

def termOf? (key : String) : Option Phrase := keyTerms.lookup key

def domainTerms : List (String × String) :=
  [("거래처", "Vendor"), ("품목", "Item"), ("사용자", "User"), ("터미널", "Terminal"),
   ("코드", "Code"), ("주문", "Order"), ("견적", "Estimate"), ("배송", "Delivery"),
   ("출하", "Shipment"), ("출하 요청", "Shipping Request"), ("명세서", "Statement"),
   ("세금계산서", "Tax Invoice"), ("구매", "Purchase"), ("생산계획", "Production Plan"),
   ("작업지시", "Work Order"), ("설비", "Machine"), ("금형", "Mold"), ("입출고", "In/Out"),
   ("수리", "Repair"), ("점검", "Check"), ("검사", "Inspection"), ("상세 목록", "Detail List"),
   ("전체 현황", "Overall Status"), ("분석", "Analysis"), ("현황", "Status"),
   ("등록", "Register"), ("수정", "Edit"), ("삭제", "Delete"), ("관리", "Management"),
   ("목록", "List")]

def inEnglish (korean : String) : String := (domainTerms.lookup korean).getD korean

end ApiScreens.Locale
