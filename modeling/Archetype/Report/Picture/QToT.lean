/-!
# Names of pictures: q to t

One entry a name, divided by `|`: the name and the code points of the picture in hexadecimal,
divided by blanks. A tilde behind the name stands for the same picture in each tone of skin.
-/

namespace Archetype.Report.Picture

/-- the pictures whose names start with q to t -/
def namesQToT : String :=
  "qatar 1F1F6 1F1E6|question 2753|question_mark 2753|rabbit 1F430|rabbit2 1F407|rabbit_face 1F430|
  raccoon 1F99D|racehorse 1F40E|racing_car 1F3CE|racing_motorcycle 1F3CD|radio 1F4FB|
  radio_button 1F518|radioactive 2622|radioactive_sign 2622|rage 1F621|railway_car 1F683|
  railway_track 1F6E4|rainbow 1F308|rainbow_flag 1F3F3 FE0F 200D 1F308|raised_back_of_hand~ 1F91A|
  raised_fist~ 270A|raised_hand~ 270B|raised_hand_with_fingers_splayed 1F590|
  raised_hand_with_part_between_middle_and_ring_fingers 1F596|raised_hands 1F64C|raising_hand 1F64B|
  raising_hands~ 1F64C|ram 1F40F|ramen 1F35C|rat 1F400|razor 1FA92|receipt 1F9FE|record_button 23FA|
  recycle 267B|recycling_symbol 267B|red-haired_man 1F468 200D 1F9B0|
  red-haired_woman 1F469 200D 1F9B0|red_apple 1F34E|red_car 1F697|red_circle 1F534|
  red_envelope 1F9E7|red_hair 1F9B0|red_heart 2764|red_paper_lantern 1F3EE|red_square 1F7E5|
  red_triangle_pointed_down 1F53B|red_triangle_pointed_up 1F53A|regional_indicator_a 1F1E6|
  regional_indicator_b 1F1E7|regional_indicator_c 1F1E8|regional_indicator_d 1F1E9|
  regional_indicator_e 1F1EA|regional_indicator_f 1F1EB|regional_indicator_g 1F1EC|
  regional_indicator_h 1F1ED|regional_indicator_i 1F1EE|regional_indicator_j 1F1EF|
  regional_indicator_k 1F1F0|regional_indicator_l 1F1F1|regional_indicator_m 1F1F2|
  regional_indicator_n 1F1F3|regional_indicator_o 1F1F4|regional_indicator_p 1F1F5|
  regional_indicator_q 1F1F6|regional_indicator_r 1F1F7|regional_indicator_s 1F1F8|
  regional_indicator_symbol_letter_a 1F1E6|regional_indicator_symbol_letter_b 1F1E7|
  regional_indicator_symbol_letter_c 1F1E8|regional_indicator_symbol_letter_d 1F1E9|
  regional_indicator_symbol_letter_e 1F1EA|regional_indicator_symbol_letter_f 1F1EB|
  regional_indicator_symbol_letter_g 1F1EC|regional_indicator_symbol_letter_h 1F1ED|
  regional_indicator_symbol_letter_i 1F1EE|regional_indicator_symbol_letter_j 1F1EF|
  regional_indicator_symbol_letter_k 1F1F0|regional_indicator_symbol_letter_l 1F1F1|
  regional_indicator_symbol_letter_m 1F1F2|regional_indicator_symbol_letter_n 1F1F3|
  regional_indicator_symbol_letter_o 1F1F4|regional_indicator_symbol_letter_p 1F1F5|
  regional_indicator_symbol_letter_q 1F1F6|regional_indicator_symbol_letter_r 1F1F7|
  regional_indicator_symbol_letter_s 1F1F8|regional_indicator_symbol_letter_t 1F1F9|
  regional_indicator_symbol_letter_u 1F1FA|regional_indicator_symbol_letter_v 1F1FB|
  regional_indicator_symbol_letter_w 1F1FC|regional_indicator_symbol_letter_x 1F1FD|
  regional_indicator_symbol_letter_y 1F1FE|regional_indicator_symbol_letter_z 1F1FF|
  regional_indicator_t 1F1F9|regional_indicator_u 1F1FA|regional_indicator_v 1F1FB|
  regional_indicator_w 1F1FC|regional_indicator_x 1F1FD|regional_indicator_y 1F1FE|
  regional_indicator_z 1F1FF|registered AE|relaxed 263A|relieved 1F60C|relieved_face 1F60C|
  reminder_ribbon 1F397|repeat 1F501|repeat_button 1F501|repeat_one 1F502|
  repeat_single_button 1F502|rescue_worker’s_helmet 26D1|restroom 1F6BB|reverse_button 25C0|
  reversed_hand_with_middle_finger_extended 1F595|revolving_hearts 1F49E|rewind 23EA|
  rhinoceros 1F98F|ribbon 1F380|rice 1F35A|rice_ball 1F359|rice_cracker 1F358|rice_scene 1F391|
  right-facing_fist~ 1F91C|right_anger_bubble 1F5EF|right_arrow 27A1|right_arrow_curving_down 2935|
  right_arrow_curving_left 21A9|right_arrow_curving_up 2934|ring 1F48D|ringed_planet 1FA90|
  roasted_sweet_potato 1F360|robot 1F916|robot_face 1F916|rocket 1F680|roll_of_paper 1F9FB|
  rolled-up_newspaper 1F5DE|rolled__up_newspaper 1F5DE|roller_coaster 1F3A2|
  rolling_on_the_floor_laughing 1F923|romania 1F1F7 1F1F4|rooster 1F413|rose 1F339|rosette 1F3F5|
  rotating_light 1F6A8|round_pushpin 1F4CD|rowboat 1F6A3|rugby_football 1F3C9|runner 1F3C3|
  running 1F3C3|running_shirt 1F3BD|running_shirt_with_sash 1F3BD|running_shoe 1F45F|
  russia 1F1F7 1F1FA|rwanda 1F1F7 1F1FC|réunion 1F1F7 1F1EA|sa 1F202|sad_but_relieved_face 1F625|
  safety_pin 1F9F7|safety_vest 1F9BA|sagittarius 2650|sailboat 26F5|sake 1F376|salt 1F9C2|
  samoa 1F1FC 1F1F8|san_marino 1F1F8 1F1F2|sandal 1F461|sandwich 1F96A|santa 1F385|
  santa_claus~ 1F385|sari 1F97B|satellite 1F4E1|satellite_antenna 1F4E1|satisfied 1F606|
  saudi_arabia 1F1F8 1F1E6|sauropod 1F995|saxophone 1F3B7|scales 2696|scarf 1F9E3|school 1F3EB|
  school_backpack 1F392|school_satchel 1F392|scissors 2702|scorpio 264F|scorpion 1F982|
  scorpius 264F|scotland 1F3F4 E0067 E0062 E0073 E0063 E0074 E007F|scream 1F631|scream_cat 1F640|
  scroll 1F4DC|seat 1F4BA|secret 3299|see-no-evil_monkey 1F648|see_no_evil 1F648|seedling 1F331|
  selfie~ 1F933|senegal 1F1F8 1F1F3|serbia 1F1F7 1F1F8|service_dog 1F415 200D 1F9BA|
  seven 37 FE0F 20E3|seven-thirty 1F562|seven_o’clock 1F556|seychelles 1F1F8 1F1E8|
  shallow_pan_of_food 1F958|shamrock 2618|shark 1F988|shaved_ice 1F367|sheaf_of_rice 1F33E|
  sheep 1F411|shell 1F41A|shield 1F6E1|shinto_shrine 26E9|ship 1F6A2|shirt 1F455|shit 1F4A9|
  shoe 1F45E|shooting_star 1F320|shopping_bags 1F6CD|shopping_cart 1F6D2|shortcake 1F370|
  shorts 1FA73|shower 1F6BF|shrimp 1F990|shuffle_tracks_button 1F500|shushing_face 1F92B|
  sierra_leone 1F1F8 1F1F1|sign_of_the_horns~ 1F918|signal_strength 1F4F6|singapore 1F1F8 1F1EC|
  sint_maarten 1F1F8 1F1FD|six 36 FE0F 20E3|six-thirty 1F561|six_o’clock 1F555|
  six_pointed_star 1F52F|skateboard 1F6F9|ski 1F3BF|skier 26F7|skis 1F3BF|skull 1F480|
  skull_and_crossbones 2620|skunk 1F9A8|sled 1F6F7|sleeping 1F634|sleeping_accommodation 1F6CC|
  sleeping_face 1F634|sleepy 1F62A|sleepy_face 1F62A|sleuth_or_spy 1F575|
  slightly_frowning_face 1F641|slightly_smiling_face 1F642|slot_machine 1F3B0|sloth 1F9A5|
  slovakia 1F1F8 1F1F0|slovenia 1F1F8 1F1EE|small_airplane 1F6E9|small_blue_diamond 1F539|
  small_orange_diamond 1F538|small_red_triangle 1F53A|small_red_triangle_down 1F53B|smile 1F604|
  smile_cat 1F638|smiley 1F603|smiley_cat 1F63A|smiling_cat_face_with_heart-eyes 1F63B|
  smiling_face 263A|smiling_face_with_3_hearts 1F970|smiling_face_with_halo 1F607|
  smiling_face_with_heart-eyes 1F60D|smiling_face_with_horns 1F608|
  smiling_face_with_smiling_eyes 1F60A|smiling_face_with_sunglasses 1F60E|smiling_imp 1F608|
  smirk 1F60F|smirk_cat 1F63C|smirking_face 1F60F|smoking 1F6AC|snail 1F40C|snake 1F40D|
  sneezing_face 1F927|snow-capped_mountain 1F3D4|snow_capped_mountain 1F3D4|snowboarder~ 1F3C2|
  snowflake 2744|snowman 2603|snowman_without_snow 26C4|soap 1F9FC|sob 1F62D|soccer 26BD|
  soccer_ball 26BD|socks 1F9E6|soft_ice_cream 1F366|softball 1F94E|solomon_islands 1F1F8 1F1E7|
  somalia 1F1F8 1F1F4|soon 1F51C|soon_arrow 1F51C|sos 1F198|sos_button 1F198|sound 1F509|
  south_africa 1F1FF 1F1E6|south_georgia_&_south_sandwich_islands 1F1EC 1F1F8|
  south_korea 1F1F0 1F1F7|south_sudan 1F1F8 1F1F8|space_invader 1F47E|spade_suit 2660|spades 2660|
  spaghetti 1F35D|spain 1F1EA 1F1F8|sparkle 2747|sparkler 1F387|sparkles 2728|sparkling_heart 1F496|
  speak-no-evil_monkey 1F64A|speak_no_evil 1F64A|speaker 1F508|speaker_high_volume 1F50A|
  speaker_low_volume 1F508|speaker_medium_volume 1F509|speaking_head 1F5E3|
  speaking_head_in_silhouette 1F5E3|speech_balloon 1F4AC|speedboat 1F6A4|spider 1F577|
  spider_web 1F578|spiral_calendar 1F5D3|spiral_calendar_pad 1F5D3|spiral_note_pad 1F5D2|
  spiral_notepad 1F5D2|spiral_shell 1F41A|sponge 1F9FD|spoon 1F944|sport_utility_vehicle 1F699|
  sports_medal 1F3C5|spouting_whale 1F433|squid 1F991|squinting_face_with_tongue 1F61D|
  sri_lanka 1F1F1 1F1F0|st._barthélemy 1F1E7 1F1F1|st._helena 1F1F8 1F1ED|
  st._kitts_&_nevis 1F1F0 1F1F3|st._lucia 1F1F1 1F1E8|st._martin 1F1F2 1F1EB|
  st._pierre_&_miquelon 1F1F5 1F1F2|st._vincent_&_grenadines 1F1FB 1F1E8|stadium 1F3DF|star 2B50|
  star-struck 1F929|star2 1F31F|star_and_crescent 262A|star_of_david 2721|stars 1F320|station 1F689|
  statue_of_liberty 1F5FD|steam_locomotive 1F682|steaming_bowl 1F35C|stethoscope 1FA7A|stew 1F372|
  stop_button 23F9|stop_sign 1F6D1|stopwatch 23F1|straight_ruler 1F4CF|strawberry 1F353|
  stuck_out_tongue 1F61B|stuck_out_tongue_closed_eyes 1F61D|stuck_out_tongue_winking_eye 1F61C|
  studio_microphone 1F399|stuffed_flatbread 1F959|sudan 1F1F8 1F1E9|sun 2600|sun_behind_cloud 26C5|
  sun_behind_large_cloud 1F325|sun_behind_rain_cloud 1F326|sun_behind_small_cloud 1F324|
  sun_with_face 1F31E|sunflower 1F33B|sunglasses 1F60E|sunny 2600|sunrise 1F305|
  sunrise_over_mountains 1F304|sunset 1F307|superhero 1F9B8|supervillain 1F9B9|surfer 1F3C4|
  suriname 1F1F8 1F1F7|sushi 1F363|suspension_railway 1F69F|svalbard_&_jan_mayen 1F1F8 1F1EF|
  swan 1F9A2|swaziland 1F1F8 1F1FF|sweat 1F613|sweat_droplets 1F4A6|sweat_drops 1F4A6|
  sweat_smile 1F605|sweden 1F1F8 1F1EA|sweet_potato 1F360|swimmer 1F3CA|switzerland 1F1E8 1F1ED|
  symbols 1F523|synagogue 1F54D|syria 1F1F8 1F1FE|syringe 1F489|são_tomé_&_príncipe 1F1F8 1F1F9|
  t-rex 1F996|t-shirt 1F455|table_tennis_paddle_and_ball 1F3D3|taco 1F32E|tada 1F389|
  taiwan 1F1F9 1F1FC|tajikistan 1F1F9 1F1EF|takeout_box 1F961|tanabata_tree 1F38B|tangerine 1F34A|
  tanzania 1F1F9 1F1FF|taurus 2649|taxi 1F695|tea 1F375|teacup_without_handle 1F375|
  tear-off_calendar 1F4C6|teddy_bear 1F9F8|telephone 260E|telephone_receiver 1F4DE|telescope 1F52D|
  television 1F4FA|ten 1F51F|ten-thirty 1F565|ten_o’clock 1F559|tennis 1F3BE|tent 26FA|
  test_tube 1F9EA|thailand 1F1F9 1F1ED|thermometer 1F321|thinking_face 1F914|thought_balloon 1F4AD|
  thread 1F9F5|three 33 FE0F 20E3|three-thirty 1F55E|three_button_mouse 1F5B1|three_o’clock 1F552|
  thumbs_down~ 1F44E|thumbs_up~ 1F44D|thumbsdown 1F44E|thumbsup 1F44D|thunder_cloud_and_rain 26C8|
  ticket 1F3AB|tiger 1F42F|tiger2 1F405|tiger_face 1F42F|timer_clock 23F2|timor-leste 1F1F9 1F1F1|
  tired_face 1F62B|tm 2122|togo 1F1F9 1F1EC|toilet 1F6BD|tokelau 1F1F9 1F1F0|tokyo_tower 1F5FC|
  tomato 1F345|tonga 1F1F9 1F1F4|tongue 1F445|toolbox 1F9F0|tooth 1F9B7|top 1F51D|top_arrow 1F51D|
  top_hat 1F3A9|tophat 1F3A9|tornado 1F32A|trackball 1F5B2|tractor 1F69C|trade_mark 2122|
  traffic_light 1F6A5|train 1F68B|train2 1F686|tram 1F68A|tram_car 1F68B|triangular_flag 1F6A9|
  triangular_flag_on_post 1F6A9|triangular_ruler 1F4D0|trident 1F531|trident_emblem 1F531|
  trinidad_&_tobago 1F1F9 1F1F9|tristan_da_cunha 1F1F9 1F1E6|triumph 1F624|trolleybus 1F68E|
  trophy 1F3C6|tropical_drink 1F379|tropical_fish 1F420|truck 1F69A|trumpet 1F3BA|tshirt 1F455|
  tulip 1F337|tumbler_glass 1F943|tunisia 1F1F9 1F1F3|turkey 1F983|turkmenistan 1F1F9 1F1F2|
  turks_&_caicos_islands 1F1F9 1F1E8|turtle 1F422|tuvalu 1F1F9 1F1FB|tv 1F4FA|twelve-thirty 1F567|
  twelve_o’clock 1F55B|twisted_rightwards_arrows 1F500|two 32 FE0F 20E3|two-hump_camel 1F42B|
  two-thirty 1F55D|two_hearts 1F495|two_men_holding_hands 1F46C|two_o’clock 1F551|
  two_women_holding_hands 1F46D"

end Archetype.Report.Picture
