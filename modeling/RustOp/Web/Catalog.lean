import Mathlib

/-!
The texts that are shown to people, in English and in Japanese.
-/
namespace RustOp.Web

/-- English texts, which are the keys, and their translations. -/
def CATALOG : List (String × String) :=
  [("Log in", "ログイン"),
    ("Sign in", "サインイン"),
    ("Sign in with a passkey", "Passkey でサインイン"),
    ("Email address (optional)", "メールアドレス（任意）"),
    ("Sign up with email", "新規登録 (メアドで)"),
    ("Cancel", "キャンセル"),
    ("This browser does not support passkeys. Open this page in the standard Safari or Chrome app.",
      "このブラウザは passkey 非対応です（標準の Safari / Chrome アプリで開いてください）。"),
    ("Could not start the passkey. Open this page in the standard Safari or Chrome app (in-app browsers are not supported).",
      "passkey を起動できませんでした。標準の Safari / Chrome アプリで開いてください（アプリ内ブラウザでは使えません）。"),
    ("Signing in…", "サインイン処理中…"),
    ("Male", "男性"),
    ("Female", "女性"),
    ("Other", "その他"),
    ("Not set", "未設定"),
    ("Profile", "プロフィール"),
    ("Name", "氏名"),
    ("Nickname", "ニックネーム"),
    ("Gender", "性別"),
    ("Birthday", "誕生日"),
    ("Time zone", "タイムゾーン"),
    ("Locale", "ロケール"),
    ("Edit", "編集"),
    ("Log out", "ログアウト"),
    ("Token info (debug)", "トークン情報 (デバッグ)"),
    ("Edit profile", "プロフィール編集"),
    ("Gender (male/female/other)", "性別 (male/female/other)"),
    ("Birthday (YYYY-MM-DD)", "誕生日 (YYYY-MM-DD)"),
    ("Save", "保存"),
    ("Your session has expired", "セッションが切れました"),
    ("Failed to save", "保存に失敗しました"),
    ("Sign-in approval request", "ログイン承認の依頼"),
    ("Approve (passkey)", "承認 (passkey)"),
    ("Reject", "拒否"),
    ("Error", "エラー"),
    ("Your session has expired. Please sign in again.", "セッションが切れました。再度サインインしてください。"),
    ("Sign up", "登録"),
    ("Create an account", "ユーザー登録"),
    ("We will send a confirmation link to your email address.", "メールアドレスに確認リンクを送ります。"),
    ("Send confirmation email", "確認メールを送信"),
    ("Sent", "送信しました"),
    ("Confirmation email sent", "確認メールを送信しました"),
    ("Open the link in the email and create a passkey to finish signing up (the link expires in 15 minutes).",
      "メール内のリンクから passkey を作成して登録を完了してください（有効期限15分）。"),
    ("Invitation expired", "招待の期限切れ"),
    ("This invitation cannot be used", "この招待は使えません"),
    ("It has expired or has already been used. Ask the person who invited you to send it again.",
      "期限が切れたか、既に使われています。招待した方に、もう一度送ってもらってください。"),
    ("Passkey registration", "passkey 登録"),
    ("Create a passkey", "passkey を作成"),
    ("Name (required)", "氏名（必須）"),
    ("Name (optional)", "氏名（任意）"),
    ("Register securely with the fido2demo app.", "fido2demo アプリで安全に登録します。"),
    ("Open in the app", "アプリで開く"),
    ("If the app is installed, it opens automatically. If it does not, continue on the web with the button below.",
      "インストール済みなら自動で開きます。開かない場合は下のボタンから Web で続行できます。"),
    ("If you open the app, the name above is not saved. It is saved if you continue on the web.",
      "アプリで開くと、上の氏名は保存されません。Web で登録を続けると保存されます。"),
    ("Continue on the web", "Web で登録を続ける"),
    ("It is created as a synced passkey (for example in iCloud Keychain).",
      "同期 passkey（iCloud Keychain 等）として作成されます。"),
    ("Create a passkey with this device (for example with biometrics) to finish signing up.",
      "このデバイスの生体認証等で passkey を作成し、登録を完了します。"),
    ("Create a passkey and sign up", "passkey を作成して登録"),
    ("Enter your name", "氏名を入力してください"),
    ("Working…", "処理中…"),
    ("Registration complete. Taking you to sign in…", "登録が完了しました。サインインの画面へ移ります…"),
    ("Registration complete.", "登録が完了しました。"),
    ("Go to log in", "ログインへ"),
    ("You have logged out", "ログアウトしました"),
    ("Go to sign in", "サインインへ"),
    ("You need to log in to approve.", "承認するにはログインが必要です。"),
    ("CIBA approval", "CIBA 承認"),
    ("There are no pending requests.", "保留中の要求はありません。"),
    ("Admin console", "管理コンソール"),
    ("Choose an action from the navigation above.", "上のナビゲーションから操作を選んでください。"),
    ("Status", "状態"),
    ("Registered", "登録日"),
    ("Admins cannot be deleted (revoke admin first).", "管理者は削除できません（先に管理者を剥奪）。"),
    ("Delete this account permanently? Its passkey, profile, and notification registration are also removed, and this cannot be undone (the CIBA approval history is kept).",
      "このアカウントを完全に削除しますか？passkey・プロフィール・通知の登録も消え、元に戻せません（CIBA の承認の履歴は残ります）。"),
    ("Delete", "削除(delete)"),
    ("Enable", "凍結解除(enable)"),
    ("You cannot disable yourself (your session would end immediately).",
      "自分自身は凍結できません（セッションが即座に失効するため）。"),
    ("Disable this account? Its sessions and tokens are also revoked.",
      "このアカウントを凍結しますか？セッション・トークンも失効します。"),
    ("Disable", "凍結(disable)"),
    ("Revoke your own admin rights?", "自分自身の管理者権限を剥奪しますか？"),
    ("Revoke admin rights?", "管理者権限を剥奪しますか？"),
    ("Revoke admin", "管理者を剥奪"),
    ("Make admin", "管理者に任命"),
    ("No history.", "操作履歴はありません。"),
    ("Time", "日時"),
    ("Actor", "実行者"),
    ("Action", "操作"),
    ("Details", "詳細"),
    ("Target", "対象"),
    ("Role", "管理者"),
    ("History", "操作履歴"),
    ("Back to the list", "一覧へ戻る"),
    ("Disabled", "凍結中"),
    ("Active", "有効"),
    ("Admin", "管理者"),
    ("Regular user", "一般"),
    ("You cannot disable yourself", "自分自身は凍結できません"),
    ("Admins cannot be deleted. Revoke admin first", "管理者は削除できません。先に管理者を剥奪してください"),
    ("An account that is not disabled cannot be deleted. Disable it first",
      "凍結していないアカウントは削除できません。先に凍結してください"),
    ("This conflicted with another change. Please try again", "他の書き込みと競合しました。もう一度お試しください"),
    ("You gave up admin rights", "管理者権限を放棄しました"),
    ("You can no longer access the admin console.", "これ以降、管理コンソールにはアクセスできません。"),
    ("The last admin cannot be revoked", "最後の管理者は剥奪できません"),
    ("Audit log (latest \x7bn\x7d)", "監査ログ（直近\x7bn\x7d件）"),
    ("Auth method", "認証方式"),
    ("(none)", "(なし)"),
    ("(none — this client has no return address after sign-out)",
      "(なし — この client はサインアウト後の戻り先を持ちません)"),
    ("post_logout_redirect_uris (one per line; leave empty for no return address)",
      "post_logout_redirect_uris（1 行に 1 つ。空にすると戻り先なし）"),
    ("Save return addresses", "戻り先を保存"),
    ("Revoke this client? This cannot be undone.", "このクライアントを失効させますか？取り消せません。"),
    ("Set", "設定済み"),
    ("None", "なし"),
    ("This client was changed by another update. Reopen it and try again.",
      "この client は別の更新で変わりました。開き直してからやり直してください。"),
    ("Unused IATs", "未消費のIAT"),
    ("New mint", "新規mint"),
    ("Discard this IAT?", "このIATを破棄しますか？"),
    ("Mint a new IAT", "新規IATをmint"),
    ("Client profile", "プロファイル"),
    ("Confidential Key (private_key_jwt, FAPI2 equivalent)", "Confidential Key（private_key_jwt、FAPI2相当）"),
    ("Confidential Secret (client_secret_basic)", "Confidential Secret（client_secret_basic）"),
    ("Public (none)", "Public（none）"),
    ("Allowed redirect hosts (one per line or comma-separated; at least one required)",
      "許可する redirect host（改行またはカンマ区切り、1つ以上必須）"),
    ("Allowed grant_type (default: authorization_code, refresh_token)",
      "許可する grant_type（省略時: authorization_code, refresh_token）"),
    ("Expires in (hours)", "有効期限（時間）"),
    ("Specify at least one redirect host", "redirect host を最低1つ指定してください"),
    ("ttl_hours must be between 1 and \x7bmax\x7d (365 days)",
      "ttl_hours は1〜\x7bmax\x7d(365日)の範囲で指定してください"),
    ("ttl_hours is too large", "ttl_hours が大きすぎます"),
    ("The IAT was issued (hash=\x7bhash\x7d), but the raw token cannot be shown because saving it for display failed.",
      "IATの発行自体は成功しました（hash=\x7bhash\x7d）が、表示用の一時保存に失敗したため生トークンは表示できません。"),
    ("Already shown", "表示済みです"),
    ("This token was already shown or has expired. Mint a new one.",
      "このトークンは既に表示済み、または期限切れです。再度mintしてください。"),
    ("Expired", "期限切れです"),
    ("It took too long to show it. Mint a new one.", "表示までに時間がかかりすぎました。再度mintしてください。"),
    ("IAT issued", "IATを発行しました"),
    ("This screen is shown only once. Copy the token now.",
      "この画面は一度しか表示されません。今すぐコピーしてください。"),
    ("IAT issuance complete", "IAT発行完了"),
    ("[rust-op] Verify your email", "【rust-op】メールアドレス確認"),
    ("Verify your email address", "メールアドレス確認"),
    ("To finish signing up, create your passkey with the button below. The link expires in 15 minutes.",
      "登録を完了するには、以下のボタンから passkey を作成してください。有効期限は15分です。"),
    ("Sign up with a passkey", "passkey を作成して登録"),
    ("If you did not request this, ignore this email.", "心当たりがない場合はこのメールを無視してください。"),
    ("[rust-op] An account already exists", "【rust-op】既に登録済みのアカウントがあります"),
    ("Already registered", "既に登録済みです"),
    ("This email address", "このメールアドレス"),
    ("is already registered. Please sign in instead of signing up.",
      "は既に登録されています。新規登録ではなくサインインをご利用ください。"),
    ("Sign-in approval", "ログインの承認"),
    ("Sign-in request from \x7bclient\x7d", "\x7bclient\x7d からのログイン要求があります")]

/-- The translation of a key. -/
def translate (key : String) : Option String := (CATALOG.find? fun e => e.1 == key).map Prod.snd

/-! ### What the texts are made of -/

/-- Whether a character stands twice in a row. -/
def doubled (c : Char) : List Char → Bool
  | a :: b :: rest => (a == c && b == c) || doubled c (b :: rest)
  | _ => false

/-- A text that neither holds nor completes a marker or a place to fill in. -/
def plain_text (text : List Char) : Bool :=
  !doubled '[' text && !doubled ']' text && text.getLast? != some ']' &&
  !doubled '_' text && text.head? != some '_' && text.getLast? != some '_' &&
  text.any fun c => c ∉ ['_', 'L', 'A', 'N', 'G']

/-- A key that is neither an opening bracket before a key nor a key behind one. -/
def plain_key (key : List Char) : Bool :=
  key.head? != some 'r' && (key.head? != some '[' || key[1]? == some 'r')

/-- What the texts of an entry are made of. -/
def safe (en ja : List Char) : Bool := plain_text en && plain_text ja && plain_key en

private theorem safe_ofList {en ja : List Char} (safe_texts : safe en ja = true) :
    safe (String.ofList en).toList (String.ofList ja).toList = true := by
  rw [String.toList_ofList, String.toList_ofList]
  exact safe_texts

set_option maxRecDepth 4000 in
theorem catalog_text_is_safe_everywhere : ∀ e ∈ CATALOG, safe e.1.toList e.2.toList = true := by
  unfold CATALOG
  simp only [List.forall_mem_cons, List.not_mem_nil, IsEmpty.forall_iff, implies_true, and_true]
  and_intros
  -- A literal is the list of its characters, so that these are what is checked.
  all_goals exact safe_ofList (by decide +kernel)

/-- A key that is translated is the key of an entry. -/
theorem translate_eq_some {key ja : String} (translated : translate key = some ja) : (key, ja) ∈ CATALOG := by
  obtain ⟨e, found, rfl⟩ := Option.map_eq_some_iff.mp translated
  have same : e.1 = key := by simpa using List.find?_some found
  rw [← same]
  exact List.mem_of_find?_eq_some found

theorem safe_of_translate {key ja : String} (translated : translate key = some ja) :
    plain_text key.toList = true ∧ plain_text ja.toList = true ∧ plain_key key.toList = true := by
  have listed := catalog_text_is_safe_everywhere _ (translate_eq_some translated)
  simpa [safe, and_assoc] using listed

/-- No key is an opening bracket before another. -/
theorem translate_bracket {key key' ja : String} (translated : translate key = some ja)
    (behind : key'.toList = '[' :: key.toList) : translate key' = none := by
  cases translated' : translate key' with
  | none => rfl
  | some ja' =>
    have plain := (safe_of_translate translated).2.2
    have plain' := (safe_of_translate translated').2.2
    have first : ('[' :: key.toList)[1]? = key.toList.head? := by cases key.toList <;> rfl
    rw [behind, plain_key, first] at plain'
    rw [plain_key] at plain
    simp only [List.head?_cons, Bool.and_eq_true, Bool.or_eq_true, bne_iff_ne, ne_eq, beq_iff_eq] at plain plain'
    exact absurd (plain'.2.resolve_left (by simp)) plain.1

end RustOp.Web
